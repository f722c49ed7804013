import RealtimePlatform.Backend.Attendance

/-!
# Tasks that share the presence table

`sweep_expired` taken apart: it collects the ids of expired sessions, then removes them one by one, and the
heartbeat loop announces what came out, channel by channel. Connections reach the table at any point in between.
`registered`, `serials`, `removals` and `announced` are ghosts; the serial of an entry is its place in `registered`.
-/

namespace RealtimePlatform.Backend
open Library

/-- What removes an entry. A sweep compares with the instant it has read at its start. -/
inductive Remover where
  | leave
  | sweep (now : Clock)
  deriving DecidableEq

def Remover.event : Remover → PresenceEvent
  | leave => .leave
  | sweep _ => .timeout

structure Removal where
  serial : Nat
  session : SessionId
  entry : PresenceEntry
  remover : Remover
  deriving DecidableEq

/-- A departure from one channel, as the loops over `entry.channels` come to it. -/
structure Notice where
  removal : Removal
  channelId : String
  deriving DecidableEq

def Removal.notices (r : Removal) : List Notice := r.entry.channels.map (Notice.mk r)

inductive SweepPhase where
  | collecting (now : Clock) (expired : List SessionId)
  | removing (now : Clock) (expired : List SessionId) (removed : List Removal)
  | announcing (notices : List Notice)

def SweepPhase.pending : SweepPhase → List Notice
  | collecting _ _ => []
  | removing _ _ removed => removed.flatMap (·.notices)
  | announcing notices => notices

structure PresenceTasks where
  ctx : RealtimeContext
  clock : Nat
  sweep : SweepPhase
  leaving : List (List Notice)
  registered : List (TenantId × SessionId × String)
  serials : SessionId → Nat
  removals : List Removal
  announced : List Notice

inductive TaskEvent where
  | register (tenantId : TenantId) (s : SessionId) (sub : String) (now : Clock)
  | heartbeat (s : SessionId) (now : Clock)
  | track (s : SessionId) (channelId : String)
  | untrack (s : SessionId) (channelId : String)
  | announce (tenantId : TenantId) (channelId : String) (s : SessionId) (event : PresenceEvent) (now : Clock)
  | leave (s : SessionId)
  | leaveNext (i : Nat) (now : Clock)
  | tick (now : Clock)
  | collect (s : SessionId)
  | collected
  | remove
  | removed
  | sweepNext (now : Clock)

namespace PresenceTasks

def entryOf (s : SessionId) (t : PresenceTasks) : Option PresenceEntry := AList.lookup s t.ctx.presence.sessions

def setPresence (p : PresenceService) (t : PresenceTasks) : PresenceTasks :=
  { t with ctx := { t.ctx with presence := p } }

/-- Every notice still to be announced by a task that has removed the entry. -/
def pending (t : PresenceTasks) : List Notice := t.leaving.flatten ++ t.sweep.pending

/-- `Instant::now()` never goes back. -/
def reads (now : Clock) (t : PresenceTasks) : Option PresenceTasks :=
  if t.clock ≤ now.instant then some { t with clock := now.instant } else none

theorem reads_eq_some {now : Clock} {t u : PresenceTasks} (read : t.reads now = some u) :
    t.clock ≤ now.instant ∧ u = { t with clock := now.instant } := by
  obtain ⟨later, same⟩ := Option.ite_none_right_eq_some.mp read
  exact ⟨later, (Option.some.inj same).symm⟩

def register (tenantId : TenantId) (s : SessionId) (sub : String) (now : Clock) (t : PresenceTasks) :
    PresenceTasks :=
  { t with
    ctx := t.ctx.handleJoin tenantId s sub now
    registered := t.registered ++ [(tenantId, s, sub)]
    serials := Function.update t.serials s t.registered.length }

/-- `DashMap::remove`, with what it hands out. -/
def take (s : SessionId) (remover : Remover) (t : PresenceTasks) : Option Removal × PresenceTasks :=
  match t.entryOf s with
  | none => (none, t)
  | some entry =>
    let r := Removal.mk (t.serials s) s entry remover
    (some r, { t.setPresence (t.ctx.presence.remove s) with removals := t.removals ++ [r] })

def leave (s : SessionId) (t : PresenceTasks) : PresenceTasks :=
  match t.take s .leave with
  | (none, t) => t
  | (some r, t) => { t with leaving := t.leaving ++ [r.notices] }

-- `handle_leave` announces under its own session id, the sweep under that of the entry.
def announce (notice : Notice) (now : Clock) (t : PresenceTasks) : PresenceTasks :=
  let r := notice.removal
  let session := match r.remover with
    | .leave => r.session
    | .sweep _ => r.entry.sessionId
  { t with
    ctx := RealtimeContext.departFrom session r.remover.event r.entry.tenantId now t.ctx notice.channelId
    announced := t.announced ++ [notice] }

def leaveNext (i : Nat) (now : Clock) (t : PresenceTasks) : Option PresenceTasks :=
  match t.leaving[i]? with
  | some (notice :: rest) => some (announce notice now { t with leaving := t.leaving.set i rest })
  | _ => none

def tick (now : Clock) (t : PresenceTasks) : Option PresenceTasks :=
  match t.sweep with
  | .announcing [] => (t.reads now).map fun t => { t with
      ctx := { t.ctx with channelRouter := t.ctx.channelRouter.pruneDeadWildcards }
      sweep := .collecting now [] }
  | _ => none

def collect (s : SessionId) (t : PresenceTasks) : Option PresenceTasks :=
  match t.sweep, t.entryOf s with
  | .collecting now expired, some entry =>
    if s ∉ expired ∧ PresenceService.isExpired now t.ctx.presence.timeout entry then
      some { t with sweep := .collecting now (expired ++ [s]) }
    else none
  | _, _ => none

def collected (t : PresenceTasks) : Option PresenceTasks :=
  match t.sweep with
  | .collecting now expired => some { t with sweep := .removing now expired [] }
  | _ => none

def remove (t : PresenceTasks) : Option PresenceTasks :=
  match t.sweep with
  | .removing now (s :: rest) removed =>
    let (r, t) := t.take s (.sweep now)
    some { t with sweep := .removing now rest (removed ++ r.toList) }
  | _ => none

def removed (t : PresenceTasks) : Option PresenceTasks :=
  match t.sweep with
  | .removing _ [] removed => some { t with sweep := .announcing (removed.flatMap (·.notices)) }
  | _ => none

def sweepNext (now : Clock) (t : PresenceTasks) : Option PresenceTasks :=
  match t.sweep with
  | .announcing (notice :: rest) => some (announce notice now { t with sweep := .announcing rest })
  | _ => none

def step : Step PresenceTasks TaskEvent
  | t, .register tenantId s sub now => (t.reads now).map (register tenantId s sub now)
  | t, .heartbeat s now => (t.reads now).map fun t => { t with ctx := t.ctx.heartbeat s now }
  | t, .track s channelId => some (t.setPresence (t.ctx.presence.trackChannel s channelId))
  | t, .untrack s channelId => some (t.setPresence (t.ctx.presence.untrackChannel s channelId))
  | t, .announce tenantId channelId s event now =>
    some { t with ctx := t.ctx.publishPresenceEvent tenantId channelId s event now }
  | t, .leave s => some (t.leave s)
  | t, .leaveNext i now => t.leaveNext i now
  | t, .tick now => t.tick now
  | t, .collect s => t.collect s
  | t, .collected => t.collected
  | t, .remove => t.remove
  | t, .removed => t.removed
  | t, .sweepNext now => t.sweepNext now

/-- The services as they are before the first session; `ctx` may hold any other state. -/
def start (ctx : RealtimeContext) (timeout : Nat) : PresenceTasks where
  ctx := { ctx with presence := PresenceService.new timeout }
  clock := 0
  sweep := .announcing []
  leaving := []
  registered := []
  serials := fun _ => 0
  removals := []
  announced := []

theorem take_of_none {s : SessionId} {remover : Remover} {t : PresenceTasks} (absent : t.entryOf s = none) :
    t.take s remover = (none, t) := by
  simp only [take, absent]

theorem take_of_some {s : SessionId} {remover : Remover} {t : PresenceTasks} {entry : PresenceEntry}
    (found : t.entryOf s = some entry) : t.take s remover =
      (some ⟨t.serials s, s, entry, remover⟩, { t.setPresence (t.ctx.presence.remove s) with
        removals := t.removals ++ [⟨t.serials s, s, entry, remover⟩] }) := by
  simp only [take, found]

theorem run_leaveNext {r : Removal} (left : r.remover = .leave) {i : Nat} (now : Clock) (channels : List String)
    (t : PresenceTasks) (there : t.leaving[i]? = some (channels.map (Notice.mk r))) :
    ∃ t', step.run t (List.replicate channels.length (.leaveNext i now)) = some t' ∧
      t'.ctx = channels.foldl (RealtimeContext.departFrom r.session .leave r.entry.tenantId now) t.ctx := by
  induction channels generalizing t with
  | nil => exact ⟨t, rfl, rfl⟩
  | cons channelId channels ih =>
      have taken : step t (.leaveNext i now) = some (announce ⟨r, channelId⟩ now
          { t with leaving := t.leaving.set i (channels.map (Notice.mk r)) }) := by
        simp only [step, leaveNext, there, List.map_cons]
      obtain ⟨inside, _⟩ := List.getElem?_eq_some_iff.mp there
      obtain ⟨t', reached, ctx⟩ := ih (announce ⟨r, channelId⟩ now
        { t with leaving := t.leaving.set i (channels.map (Notice.mk r)) }) (List.getElem?_set_self inside)
      refine ⟨t', Step.run_cons_iff.mpr ⟨_, taken, reached⟩, ctx.trans ?_⟩
      simp only [announce, left, Remover.event, List.foldl_cons]

theorem handleLeave_alone (s : SessionId) (now : Clock) (t : PresenceTasks) :
    ∃ n t', step.run t (.leave s :: List.replicate n (.leaveNext t.leaving.length now)) = some t' ∧
      t'.ctx = t.ctx.handleLeave s now := by
  have first : step t (.leave s) = some (t.leave s) := rfl
  unfold RealtimeContext.handleLeave
  cases found : AList.lookup s t.ctx.presence.sessions with
  | none =>
      refine ⟨0, t.leave s, Step.run_cons_iff.mpr ⟨_, first, rfl⟩, ?_⟩
      simp only [leave, take_of_none found]
  | some entry =>
      have after : t.leave s = { t.setPresence (t.ctx.presence.remove s) with
          removals := t.removals ++ [⟨t.serials s, s, entry, .leave⟩]
          leaving := t.leaving ++ [entry.channels.map (Notice.mk ⟨t.serials s, s, entry, .leave⟩)] } := by
        simp only [leave, take_of_some found]
        rfl
      obtain ⟨t', reached, ctx⟩ := run_leaveNext rfl now entry.channels (t.leave s)
        (by rw [after]; exact List.getElem?_concat_length)
      refine ⟨entry.channels.length, t', Step.run_cons_iff.mpr ⟨_, first, reached⟩, ctx.trans ?_⟩
      rw [after]
      rfl

theorem run_sweepNext (now : Clock) (notices : List Notice) (swept : ∀ notice ∈ notices,
      ∃ began, notice.removal.remover = .sweep began) (t : PresenceTasks) (there : t.sweep = .announcing notices) :
    ∃ t', step.run t (List.replicate notices.length (.sweepNext now)) = some t' ∧ t'.sweep = .announcing [] ∧
      t'.ctx = notices.foldl (fun ctx notice => RealtimeContext.departFrom notice.removal.entry.sessionId .timeout
        notice.removal.entry.tenantId now ctx notice.channelId) t.ctx := by
  induction notices generalizing t with
  | nil => exact ⟨t, rfl, there, rfl⟩
  | cons notice notices ih =>
      have taken : step t (.sweepNext now) = some (announce notice now { t with sweep := .announcing notices }) := by
        simp only [step, sweepNext, there]
      obtain ⟨t', reached, idle, ctx⟩ := ih (fun other member => swept other (List.mem_cons_of_mem notice member))
        (announce notice now { t with sweep := .announcing notices }) rfl
      obtain ⟨began, remover⟩ := swept notice List.mem_cons_self
      refine ⟨t', Step.run_cons_iff.mpr ⟨_, taken, reached⟩, idle, ctx.trans ?_⟩
      simp only [announce, remover, Remover.event, List.foldl_cons]

theorem run_collect {now : Clock} (order found : List SessionId) (t : PresenceTasks)
    (expired : ∀ s ∈ order, s ∈ t.ctx.presence.expired now) (distinct : (found ++ order).Nodup)
    (there : t.sweep = .collecting now found) : step.run t (order.map .collect) =
      some { t with sweep := .collecting now (found ++ order) } := by
  induction order generalizing t found with
  | nil => simp [← there]
  | cons s order ih =>
      obtain ⟨e, kept, rfl⟩ := List.mem_map.mp (expired s List.mem_cons_self)
      obtain ⟨member, late⟩ := List.mem_filter.mp kept
      have entry : t.entryOf e.1 = some e.2 := AList.mem_lookup_iff.mpr member
      have fresh : e.1 ∉ found := fun earlier =>
        (List.nodup_append.mp distinct).2.2 e.1 earlier e.1 List.mem_cons_self rfl
      have taken : step t (.collect e.1) = some { t with sweep := .collecting now (found ++ [e.1]) } := by
        simp [step, collect, there, entry, fresh, late]
      have rest := ih (found ++ [e.1]) { t with sweep := .collecting now (found ++ [e.1]) }
        (fun q member => expired q (List.mem_cons_of_mem e.1 member)) (by simpa using distinct) rfl
      refine Step.run_cons_iff.mpr ⟨_, taken, rest.trans ?_⟩
      simp

theorem run_remove {now : Clock} {order : List SessionId} (distinct : order.Nodup) (t : PresenceTasks)
    (removed : List Removal) (there : t.sweep = .removing now order removed) :
    ∃ rs t', step.run t (List.replicate order.length .remove) = some t' ∧
      t'.sweep = .removing now [] (removed ++ rs) ∧ (∀ r ∈ rs, r.remover = .sweep now) ∧
      rs.map (·.entry) = order.filterMap (AList.lookup · t.ctx.presence.sessions) ∧
      t'.ctx = { t.ctx with presence := order.foldl (fun p s => p.remove s) t.ctx.presence } := by
  induction order generalizing t removed with
  | nil => exact ⟨[], t, rfl, by rw [there, List.append_nil], fun _ member => absurd member List.not_mem_nil, rfl, rfl⟩
  | cons s order ih =>
      obtain ⟨fresh, rest⟩ := List.nodup_cons.mp distinct
      have taken : step t .remove = some { (t.take s (.sweep now)).2 with
          sweep := .removing now order (removed ++ (t.take s (.sweep now)).1.toList) } := by
        simp only [step, remove, there]
      cases found : t.entryOf s with
      | none =>
          rw [take_of_none found] at taken
          obtain ⟨rs, t', reached, sweep, own, entries, ctx⟩ := ih rest
            { t with sweep := .removing now order (removed ++ []) } _ rfl
          have absent : t.ctx.presence.remove s = t.ctx.presence := by
            have same : AList.erase s t.ctx.presence.sessions = t.ctx.presence.sessions := by
              apply AList.ext
              exact List.kerase_of_notMem_keys fun member => AList.lookup_eq_none.mp found (AList.mem_keys.mpr member)
            simp [PresenceService.remove, same]
          refine ⟨rs, t', Step.run_cons_iff.mpr ⟨_, taken, reached⟩, by simpa using sweep, own, ?_, ?_⟩
          · have nothing : AList.lookup s t.ctx.presence.sessions = none := found
            simp only [List.filterMap_cons, nothing]
            exact entries
          · rw [ctx, List.foldl_cons, absent]
      | some entry =>
          rw [take_of_some found] at taken
          obtain ⟨rs, t', reached, sweep, own, entries, ctx⟩ := ih rest
            { t.setPresence (t.ctx.presence.remove s) with
              removals := t.removals ++ [⟨t.serials s, s, entry, .sweep now⟩]
              sweep := .removing now order (removed ++ [⟨t.serials s, s, entry, .sweep now⟩]) } _ rfl
          refine ⟨⟨t.serials s, s, entry, .sweep now⟩ :: rs, t', Step.run_cons_iff.mpr ⟨_, taken, reached⟩,
            by simpa using sweep, fun r member => ?_, ?_, ctx⟩
          · rcases List.mem_cons.mp member with rfl | later
            · rfl
            · exact own r later
          · have there : AList.lookup s t.ctx.presence.sessions = some entry := found
            simp only [List.filterMap_cons, there, List.map_cons, entries]
            refine congrArg (entry :: ·) (List.filterMap_congr fun q member => ?_)
            exact PresenceService.lookup_remove_ne (ne_of_mem_of_not_mem member fresh)

theorem foldl_notices (now : Clock) (rs : List Removal) (ctx : RealtimeContext) :
    (rs.flatMap (·.notices)).foldl (fun ctx notice => RealtimeContext.departFrom notice.removal.entry.sessionId .timeout
        notice.removal.entry.tenantId now ctx notice.channelId) ctx =
      (rs.map (·.entry)).foldl (fun ctx entry => RealtimeContext.departAll entry.sessionId .timeout now entry ctx) ctx := by
  induction rs generalizing ctx with
  | nil => rfl
  | cons r rs ih =>
      have first : r.notices.foldl (fun ctx notice => RealtimeContext.departFrom notice.removal.entry.sessionId .timeout
          notice.removal.entry.tenantId now ctx notice.channelId) ctx =
            RealtimeContext.departAll r.entry.sessionId .timeout now r.entry ctx := by
        rw [Removal.notices, List.foldl_map]
        rfl
      rw [List.flatMap_cons, List.foldl_append, first, ih]
      rfl

def ticked (now : Clock) (sweep : SweepPhase) (t : PresenceTasks) : PresenceTasks :=
  { t with
    ctx := { t.ctx with channelRouter := t.ctx.channelRouter.pruneDeadWildcards }
    clock := now.instant
    sweep := sweep }

theorem sweep_alone {order : List SessionId} {now : Clock} {t : PresenceTasks} (idle : t.sweep = .announcing [])
    (later : t.clock ≤ now.instant) (listed : order.Perm (t.ctx.presence.expired now)) :
    ∃ es t', step.run t es = some t' ∧ t'.sweep = .announcing [] ∧ t'.ctx = t.ctx.sweep order now := by
  have distinct := listed.nodup_iff.mpr (PresenceService.nodup_expired now t.ctx.presence)
  have begun : step t (.tick now) = some (ticked now (.collecting now []) t) := by
    simp only [step, tick, idle, reads, if_pos later, Option.map_some]
    rfl
  have gathered : step.run (ticked now (.collecting now []) t) (order.map .collect) =
      some (ticked now (.collecting now order) t) :=
    run_collect order [] (ticked now (.collecting now []) t) (fun s member => listed.subset member) distinct rfl
  have closed : step (ticked now (.collecting now order) t) .collected = some (ticked now (.removing now order []) t) :=
    rfl
  obtain ⟨rs, u, emptied, sweep, own, entries, ctx⟩ :=
    run_remove distinct (ticked now (.removing now order []) t) [] rfl
  have returned : step u .removed = some { u with sweep := .announcing (rs.flatMap (·.notices)) } := by
    simp only [step, removed, sweep, List.nil_append]
  have swept : ∀ notice ∈ rs.flatMap (·.notices), ∃ began, notice.removal.remover = .sweep began := by
    intro notice member
    obtain ⟨r, taken, inside⟩ := List.mem_flatMap.mp member
    obtain ⟨channelId, _, rfl⟩ := List.mem_map.mp inside
    exact ⟨now, own r taken⟩
  obtain ⟨t', told, finished, after⟩ := run_sweepNext now (rs.flatMap (·.notices)) swept
    { u with sweep := .announcing (rs.flatMap (·.notices)) } rfl
  refine ⟨.tick now :: (order.map .collect ++ .collected :: (List.replicate order.length .remove ++ .removed ::
    List.replicate (rs.flatMap (·.notices)).length (.sweepNext now))), t', ?_, finished, ?_⟩
  · refine Step.run_cons_iff.mpr ⟨_, begun, Step.run_append_iff.mpr ⟨_, gathered, ?_⟩⟩
    refine Step.run_cons_iff.mpr ⟨_, closed, Step.run_append_iff.mpr ⟨_, emptied, ?_⟩⟩
    exact Step.run_cons_iff.mpr ⟨_, returned, told⟩
  · rw [after, foldl_notices, entries, ctx]
    rfl

end PresenceTasks
end RealtimePlatform.Backend
