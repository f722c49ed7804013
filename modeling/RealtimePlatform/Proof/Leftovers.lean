import RealtimePlatform.Backend.Attendance
import RealtimePlatform.Proof.RelayLag
import RealtimePlatform.Proof.SessionBuckets

namespace RealtimePlatform.Proof.Leftovers
open Library Backend Backend.Server Backend.UseCases Backend.Connection RelayLag

def Reined (c : Connection) : Prop :=
  ∀ seq task, AList.lookup seq c.tasks = some task → task.aborted = true ∨
    c.isOpen = true ∧ ∃ key, AList.lookup key c.relayTasks = some seq

section
variable {c c' : Connection} {seq : Nat} {task : RelayTask} {name : String}

theorem lookup_abortAt_cases (found : AList.lookup seq (c.abortAt name).tasks = some task) :
    task.aborted = true ∨
      AList.lookup seq c.tasks = some task ∧ AList.lookup name c.relayTasks ≠ some seq := by
  unfold abortAt at found
  cases there : AList.lookup name c.relayTasks with
  | none =>
      rw [there] at found
      exact Or.inr ⟨found, by simp⟩
  | some other =>
      rw [there, Option.elim_some, abortTask] at found
      by_cases same : seq = other
      · subst same
        rw [Table.lookup_adjust] at found
        obtain ⟨older, _, rfl⟩ := Option.map_eq_some_iff.mp found
        exact Or.inl rfl
      · rw [Table.lookup_adjust_ne _ _ same] at found
        exact Or.inr ⟨found, fun named => same (Option.some.inj named).symm⟩

theorem reined_spawnRelay (reined : Reined c) (isOpen : c.isOpen = true) (name : String)
    (source : Source) (automatic : Bool) : Reined (c.spawnRelay name source automatic) := by
  intro seq task found
  by_cases last : seq = c.spawned
  · subst last
    exact Or.inr ⟨isOpen, name, by rw [lookup_spawnRelay, if_pos rfl]⟩
  · have older : AList.lookup seq (c.abortAt name).tasks = some task :=
      (AList.lookup_insert_ne last).symm.trans found
    rcases lookup_abortAt_cases older with aborted | ⟨before, unnamed⟩
    · exact Or.inl aborted
    · refine (reined seq task before).imp_right fun named => ?_
      obtain ⟨_, key, there⟩ := named
      have apart : key ≠ name := by
        rintro rfl
        exact unnamed there
      exact ⟨isOpen, key, by rw [lookup_spawnRelay, if_neg apart, there]⟩

theorem reined_unsubscribe (reined : Reined c) (isOpen : c.isOpen = true) (name : String) :
    Reined (c.unsubscribe name) := by
  intro seq task found
  rcases lookup_abortAt_cases found with aborted | ⟨before, unnamed⟩
  · exact Or.inl aborted
  · refine (reined seq task before).imp_right fun named => ?_
    obtain ⟨_, key, there⟩ := named
    have apart : key ≠ name := by
      rintro rfl
      exact unnamed there
    exact ⟨isOpen, key, by rw [lookup_unsubscribe, if_neg apart, there]⟩

theorem aborted_shut (reined : Reined c) (found : AList.lookup seq c.shut.tasks = some task) :
    task.aborted = true := by
  simp only [shut, Table.lookup_rewrite] at found
  obtain ⟨older, before, rfl⟩ := Option.map_eq_some_iff.mp found
  split
  · rfl
  · rename_i unnamed
    rcases reined seq older before with aborted | ⟨_, key, there⟩
    · exact aborted
    · refine absurd (List.any_eq_true.mpr ⟨⟨key, seq⟩, ?_, by simp⟩) unnamed
      exact AList.mem_lookup_iff.mp there

theorem Reined.of_tasks (reined : Reined c) (names : c'.relayTasks = c.relayTasks)
    (isOpen : c'.isOpen = c.isOpen)
    (tasks : ∀ seq task, AList.lookup seq c'.tasks = some task →
      ∃ older, AList.lookup seq c.tasks = some older ∧ task.aborted = older.aborted) : Reined c' := by
  intro seq task found
  obtain ⟨older, before, same⟩ := tasks seq task found
  rw [same, names, isOpen]
  exact reined seq older before

theorem reined_insert (reined : Reined c) (there : AList.lookup seq c.tasks = some task) (next : Nat)
    (inFlight : Option Message) (queue : List Queued) :
    Reined { c with
      tasks := AList.insert seq { task with next := next, inFlight := inFlight } c.tasks
      outQueue := queue } := by
  refine reined.of_tasks rfl rfl fun other found held => ?_
  by_cases same : other = seq
  · subst same
    rw [AList.lookup_insert, Option.some.injEq] at held
    exact ⟨task, there, held ▸ rfl⟩
  · rw [AList.lookup_insert_ne same] at held
    exact ⟨found, held, rfl⟩

theorem reined_of_moved {env : Env} {server : Server} {s : SessionId} {e : Event} (reined : Reined c)
    (moved : Moved env server s e c c') : Reined c' := by
  have kept : ∀ seq task, AList.lookup seq c.tasks = some task →
      ∃ older, AList.lookup seq c.tasks = some older ∧ task.aborted = older.aborted :=
    fun seq task found => ⟨task, found, rfl⟩
  cases moved with
  | still => exact reined
  | handled handles =>
      rename_i bytes now frame command tenant ctx
      have isOpen : (returned env server s now c frame tenant).isOpen = true :=
        (waiting_eq_some handles.ready).2.1
      have returned : Reined (returned env server s now c frame tenant) := reined.of_tasks rfl rfl kept
      cases command with
      | subscribed key source => exact reined_spawnRelay returned isOpen key source _
      | unsubscribed key => exact reined_unsubscribe returned isOpen key
      | replayed frames => exact returned.of_tasks rfl rfl kept
      | closeAuthFailed =>
          exact fun seq task found =>
            Or.inl (aborted_shut (returned.of_tasks rfl rfl kept) found)
      | none => exact returned.of_tasks rfl rfl kept
  | received there _ _ => exact reined_insert reined there _ _ _
  | ended =>
      refine reined.of_tasks rfl rfl fun other found held => ?_
      exact ⟨found, (Table.lookup_of_lookup_erase held).2, rfl⟩
  | queued there _ _ _ => exact reined_insert reined there _ _ _
  | replayed => exact reined.of_tasks rfl rfl kept
  | wrote => exact reined.of_tasks rfl rfl kept
  | closed => exact fun seq task found => Or.inl (aborted_shut reined found)

end

def Held (server : Server) : Prop :=
  ∀ source s seq, (server.ctx.channelRouter.sent source ⟨s, seq⟩).isSome = true →
    ∃ c task, server.connections s = some c ∧ AList.lookup seq c.tasks = some task ∧
      task.source = source

theorem isSome_broadcasts {r r' : ChannelRouterService Message} (broadcasts : Broadcasts r r')
    (source : Source) (rx : ReceiverId) : (r'.sent source rx).isSome = (r.sent source rx).isSome := by
  obtain ⟨new, sent⟩ := broadcasts.sent source rx
  rw [sent, Option.isSome_map]

section
variable {env : Env} {server server' : Server} {e : Event} {s : SessionId} {c c' : Connection}

theorem held_broadcasts (held : Held server) (connections : server'.connections = server.connections)
    (broadcasts : Broadcasts server.ctx.channelRouter server'.ctx.channelRouter) : Held server' := by
  intro source s seq attached
  rw [isSome_broadcasts broadcasts] at attached
  rw [connections]
  exact held source s seq attached

theorem held_set (held : Held server) (ctx : RealtimeContext)
    (others : ∀ source q seq, q ≠ s → (ctx.channelRouter.sent source ⟨q, seq⟩).isSome = true →
      (server.ctx.channelRouter.sent source ⟨q, seq⟩).isSome = true)
    (own : ∀ source seq, (ctx.channelRouter.sent source ⟨s, seq⟩).isSome = true →
      ∃ task, AList.lookup seq c'.tasks = some task ∧ task.source = source) :
    Held ((server.setCtx ctx).setConnection s c') := by
  intro source q seq attached
  rw [connections_setConnection]
  by_cases here : q = s
  · subst here
    obtain ⟨task, found, same⟩ := own source seq attached
    exact ⟨c', task, if_pos rfl, found, same⟩
  · rw [if_neg here]
    exact held source q seq (others source q seq here attached)

theorem source_of_sameTasks {tasks tasks' : Table Nat RelayTask} (same : SameTasks tasks tasks')
    {seq : Nat} {task : RelayTask} (found : AList.lookup seq tasks = some task) :
    ∃ task', AList.lookup seq tasks' = some task' ∧ task'.source = task.source := by
  have sources := same seq
  rw [found, Option.map_some] at sources
  obtain ⟨task', there, equal⟩ := Option.map_eq_some_iff.mp sources
  exact ⟨task', there, congrArg Prod.fst equal⟩

theorem held_kept (held : Held server) (ctx : RealtimeContext) (there : server.connections s = some c)
    (broadcasts : Broadcasts server.ctx.channelRouter ctx.channelRouter)
    (tasks : SameTasks c.tasks c'.tasks) : Held ((server.setCtx ctx).setConnection s c') := by
  refine held_set held ctx (fun source q seq _ attached => ?_) fun source seq attached => ?_
  · rwa [isSome_broadcasts broadcasts] at attached
  · rw [isSome_broadcasts broadcasts] at attached
    obtain ⟨d, task, found, running, same⟩ := held source s seq attached
    obtain rfl := Option.some.inj (there.symm.trans found)
    obtain ⟨task', after, equal⟩ := source_of_sameTasks tasks running
    exact ⟨task', after, equal.trans same⟩

theorem held_dropTask (held : Held server) {seq : Nat} {task : RelayTask}
    (there : server.connections s = some c) (running : AList.lookup seq c.tasks = some task) :
    Held (server.dropTask s seq task c) := by
  refine held_set held _ (fun source q n apart attached => ?_) fun source n attached => ?_
  · rw [ChannelRouterService.sent_detach, if_neg fun both => apart (ReceiverId.mk.inj both.2).1] at attached
    exact attached
  · rw [ChannelRouterService.sent_detach] at attached
    split at attached
    · cases attached
    · rename_i apart
      obtain ⟨d, found, same, held, source'⟩ := held source s n attached
      obtain rfl := Option.some.inj (there.symm.trans same)
      have other : n ≠ seq := by
        rintro rfl
        obtain rfl := Option.some.inj (running.symm.trans held)
        exact apart ⟨source'.symm, rfl⟩
      exact ⟨found, (AList.lookup_erase_ne other).trans held, source'⟩

theorem held_handled (held : Held server)
    (numbered : ∀ seq task, AList.lookup seq c.tasks = some task → seq < c.spawned)
    {bytes : List UInt8} {now : Clock} {frame : Frame} {command : FrameCommand}
    {tenant : Option TenantId} {ctx : RealtimeContext}
    (handles : Handles env server s bytes now c frame command tenant ctx) :
    Held ((server.setCtx (settled s now (returned env server s now c frame tenant) frame command
      ctx)).setConnection s (react frame command (returned env server s now c frame tenant))) := by
  have there : server.connections s = some c := (waiting_eq_some handles.ready).1
  have obtained := handles.dispatched.obtained
  have settles := settled_broadcasts s now (returned env server s now c frame tenant) frame command ctx
  cases command with
  | subscribed key source =>
      obtain ⟨r, obtains, _, publishes⟩ := obtained
      have broadcasts := publishes.trans settles
      have unspawned : ∀ other, (server.ctx.channelRouter.sent other ⟨s, c.spawned⟩).isSome = true →
          False := by
        intro other attached
        obtain ⟨d, task, found, running, _⟩ := held other s c.spawned attached
        obtain rfl := Option.some.inj (there.symm.trans found)
        exact absurd (numbered _ task running) (Nat.lt_irrefl _)
      refine held_set held _ (fun other q seq apart attached => ?_) fun other seq attached => ?_
      · rw [isSome_broadcasts broadcasts, obtains,
          if_neg fun both => apart (ReceiverId.mk.inj both.2).1] at attached
        exact attached
      · rw [isSome_broadcasts broadcasts, obtains] at attached
        by_cases last : seq = c.spawned
        · subst last
          split at attached
          · rename_i both
            exact ⟨_, AList.lookup_insert _, both.1.symm⟩
          · exact absurd attached fun there => unspawned other there
        · rw [if_neg fun both => last (ReceiverId.mk.inj both.2).2] at attached
          obtain ⟨d, task, found, running, same⟩ := held other s seq attached
          obtain rfl := Option.some.inj (there.symm.trans found)
          obtain ⟨task', after, equal⟩ :=
            source_of_sameTasks (aborts_abortAt key (returned env server s now c frame tenant)).sameTasks
              running
          exact ⟨task', (AList.lookup_insert_ne last).trans after, equal.trans same⟩
  | unsubscribed key =>
      exact held_kept held _ there (Broadcasts.trans obtained settles)
        (aborts_abortAt key (returned env server s now c frame tenant)).sameTasks
  | replayed frames =>
      exact held_kept held _ there (Broadcasts.trans obtained settles) fun _ => rfl
  | closeAuthFailed =>
      exact held_kept held _ there (Broadcasts.trans obtained settles)
        (aborts_shut (returned env server s now c frame tenant)).sameTasks
  | none => exact held_kept held _ there (Broadcasts.trans obtained settles) fun _ => rfl

theorem held_step {put : SessionId → Nat → List Message} (accounted : Accounted put server)
    (held : Held server) (taken : step env server e = some server') : Held server' := by
  cases step_cases taken with
  | connected fresh =>
      rename_i s transport
      refine held_set held _ (fun source q seq _ attached => attached) fun source seq attached => ?_
      obtain ⟨c, task, found, _⟩ := held source s seq attached
      rw [fresh] at found
      cases found
  | handled handles =>
      refine held_handled held (fun seq task running => ?_) handles
      exact (accounted.serves _ _ (waiting_eq_some handles.ready).1 seq task running).1
  | received there running | queued there running =>
      exact held_kept held server.ctx there (.refl _) (sameTasks_insert running rfl rfl)
  | ended there running | orphaned there running | dropped there running =>
      exact held_dropTask held there running
  | replayed there => exact held_kept held server.ctx there (.refl _) fun _ => rfl
  | wrote ready =>
      exact held_kept held server.ctx (waiting_eq_some ready).1 (.refl _) fun _ => rfl
  | closed ready =>
      exact held_kept held _ (waiting_eq_some ready).1 (leave_broadcasts _ _ _ server.ctx)
        (aborts_shut _).sameTasks
  | swept => exact held_broadcasts held rfl (RealtimeContext.sweep_broadcasts _ _ server.ctx)
  | requested => exact held_broadcasts held rfl (httpStep_broadcasts env _ _ server.ctx)
  | administered =>
      rename_i op
      cases op <;> exact held_broadcasts held rfl (.refl _)
  | reinjected => exact held_broadcasts held rfl (.publish _ _ _ _ _)
  | persisted port => exact held_broadcasts held rfl (.drained port)
  | _ => exact held_broadcasts held rfl (.refl _)

end

/-- The session has no open connection. -/
def Gone (server : Server) (s : SessionId) : Prop :=
  ∀ c, server.connections s = some c → c.isOpen = false

def Bucketed (server : Server) : Prop :=
  ∀ s, Gone server s → server.ctx.rateLimiter.perSession s = none

section
variable {env : Env} {server server' : Server} {e : Event} {s : SessionId} {c c' : Connection}

theorem rateLimiter_leave (s : SessionId) (c : Connection) (now : Clock) (ctx : RealtimeContext) :
    (leave s c now ctx).rateLimiter = ctx.rateLimiter.dropSession s := by
  unfold leave
  simp only
  split
  · exact (RealtimeContext.handleLeave_same s now _).rateLimiter
  · rfl

theorem perSession_httpStep (env : Env) (request : HttpRequest) (now : Clock) (ctx : RealtimeContext) :
    (httpStep env request now ctx).rateLimiter.perSession = ctx.rateLimiter.perSession := by
  have ledger := ledger_httpStep env request now ctx fun _ => false
  have limiter := congrArg (fun l : Ledger => l.rateLimiter.perSession) ledger
  refine limiter.trans (funext fun s => ?_)
  exact (SessionBuckets.apart_http request now).1

theorem bucketed_same (bucketed : Bucketed server) (connections : server'.connections = server.connections)
    (buckets : server'.ctx.rateLimiter.perSession = server.ctx.rateLimiter.perSession) :
    Bucketed server' := by
  intro s gone
  rw [buckets]
  exact bucketed s fun c there => gone c (connections ▸ there)

theorem bucketed_set (bucketed : Bucketed server) (ctx : RealtimeContext)
    (others : ∀ q, q ≠ s → ctx.rateLimiter.perSession q = server.ctx.rateLimiter.perSession q)
    (own : c'.isOpen = false → ctx.rateLimiter.perSession s = none) :
    Bucketed ((server.setCtx ctx).setConnection s c') := by
  intro q gone
  by_cases here : q = s
  · subst here
    exact own (gone c' (connections_setConnection_self q c' _))
  · refine (others q here).trans (bucketed q fun d there => gone d ?_)
    rw [connections_setConnection, if_neg here]
    exact there

theorem bucketed_kept (bucketed : Bucketed server) (ctx : RealtimeContext)
    (there : server.connections s = some c) (isOpen : c'.isOpen = c.isOpen)
    (same : ctx.rateLimiter = server.ctx.rateLimiter) :
    Bucketed ((server.setCtx ctx).setConnection s c') := by
  refine bucketed_set bucketed ctx (fun q _ => by rw [same]) fun shut => ?_
  rw [same]
  refine bucketed s fun d found => ?_
  obtain rfl := Option.some.inj (there.symm.trans found)
  rw [← isOpen, shut]

theorem perSession_charged {q : SessionId} (apart : q ≠ s) (frame : Frame) (now : Clock)
    (ctx : RealtimeContext) :
    (charged s frame now ctx).rateLimiter.perSession q = ctx.rateLimiter.perSession q :=
  Function.update_of_ne apart _ _

theorem perSession_dropSession (limiter : RateLimitService) (s q : SessionId) :
    (limiter.dropSession s).perSession q = if q = s then none else limiter.perSession q :=
  Function.update_apply _ _ _ _

theorem bucketed_handled (bucketed : Bucketed server) {bytes : List UInt8} {now : Clock} {frame : Frame}
    {command : FrameCommand} {tenant : Option TenantId} {ctx : RealtimeContext}
    (handles : Handles env server s bytes now c frame command tenant ctx) :
    Bucketed ((server.setCtx (settled s now (returned env server s now c frame tenant) frame command
      ctx)).setConnection s (react frame command (returned env server s now c frame tenant))) := by
  have limiter : ctx.rateLimiter = (charged s frame now server.ctx).rateLimiter :=
    handles.dispatched.rateLimiter_eq
  have isOpen : (returned env server s now c frame tenant).isOpen = true :=
    (waiting_eq_some handles.ready).2.1
  by_cases closing : command = .closeAuthFailed
  · subst closing
    have dropped : (settled s now (returned env server s now c frame tenant) frame .closeAuthFailed
        ctx).rateLimiter = ctx.rateLimiter.dropSession s := rateLimiter_leave s _ now _
    refine bucketed_set bucketed _ (fun q apart => ?_) fun _ => ?_
    · rw [dropped, perSession_dropSession, if_neg apart, limiter, perSession_charged apart]
    · rw [dropped, perSession_dropSession, if_pos rfl]
  · have kept : (settled s now (returned env server s now c frame tenant) frame command
        ctx).rateLimiter = ctx.rateLimiter := by
      cases command with
      | closeAuthFailed => exact absurd rfl closing
      | _ => rfl
    refine bucketed_set bucketed _ (fun q apart => ?_) fun shut => ?_
    · rw [kept, limiter, perSession_charged apart]
    · rw [isOpen_react frame _ closing, isOpen] at shut
      cases shut

theorem bucketed_step (bucketed : Bucketed server) (taken : step env server e = some server') :
    Bucketed server' := by
  cases step_cases taken with
  | unparsed | passed => exact bucketed
  | connected fresh =>
      refine bucketed_set bucketed _ (fun q _ => rfl) fun shut => ?_
      cases shut
  | limited ready parsed refused =>
      rename_i s bytes now c frame
      intro q gone
      have apart : q ≠ s := by
        rintro rfl
        obtain ⟨there, isOpen, _⟩ := waiting_eq_some ready
        have shut := gone c there
        rw [isOpen] at shut
        cases shut
      exact (perSession_charged apart frame now server.ctx).trans (bucketed q gone)
  | handled handles => exact bucketed_handled bucketed handles
  | received there | queued there | replayed there =>
      exact bucketed_kept bucketed server.ctx there rfl rfl
  | wrote ready => exact bucketed_kept bucketed server.ctx (waiting_eq_some ready).1 rfl rfl
  | ended there | orphaned there | dropped there => exact bucketed_kept bucketed _ there rfl rfl
  | closed ready =>
      refine bucketed_set bucketed _ (fun q apart => ?_) fun _ => ?_
      · rw [rateLimiter_leave, perSession_dropSession, if_neg apart]
      · rw [rateLimiter_leave, perSession_dropSession, if_pos rfl]
  | swept =>
      refine bucketed_same bucketed rfl (congrArg RateLimitService.perSession ?_)
      exact (RealtimeContext.sweep_same _ _ server.ctx).rateLimiter
  | requested => exact bucketed_same bucketed rfl (perSession_httpStep env _ _ server.ctx)
  | administered =>
      rename_i op
      cases op <;> exact bucketed_same bucketed rfl rfl
  | _ => exact bucketed_same bucketed rfl rfl

end

structure Tidy (server : Server) : Prop where
  reined : ∀ s c, server.connections s = some c → Reined c
  accounted : ∃ put, Accounted put server
  held : Held server
  bucketed : Bucketed server
  registered : Registered server.ctx.presence server.users

section
variable {env : Env} {server : Server} {s : SessionId}

theorem tidy_step (server : Server) (e : Event) (server' : Server) (tidy : Tidy server)
    (taken : step env server e = some server') : Tidy server' := by
  obtain ⟨put, accounted⟩ := tidy.accounted
  refine ⟨fun s c' found => ?_, ⟨_, accounted_step accounted taken⟩, held_step accounted tidy.held taken,
    bucketed_step tidy.bucketed taken, registered_step server e server' tidy.registered taken⟩
  rcases step_moved taken found with ⟨transport, _, _, rfl⟩ | ⟨c, there, moved⟩
  · intro seq task running
    cases running
  · exact reined_of_moved (tidy.reined s c there) moved

theorem tidy_start (env : Env) (config : RateLimitConfig) (timeout : Nat) (hasRedis hasWebPush : Bool) :
    Tidy (start config timeout hasRedis hasWebPush) := by
  refine ⟨fun s c found => ?_, (sound_start env config timeout hasRedis hasWebPush).accounted, ?_,
    fun s _ => rfl, registered_start config timeout hasRedis hasWebPush⟩
  · cases found
  · intro source s seq attached
    cases hasRedis <;> cases source <;> cases attached

theorem aborted_of_gone (tidy : Tidy server) (gone : Gone server s) {c : Connection} {seq : Nat}
    {task : RelayTask} (there : server.connections s = some c)
    (running : AList.lookup seq c.tasks = some task) : task.aborted = true := by
  rcases tidy.reined s c there seq task running with aborted | ⟨isOpen, _⟩
  · exact aborted
  · rw [gone c there] at isOpen
    cases isOpen

theorem presence_of_gone (tidy : Tidy server) (gone : Gone server s) :
    AList.lookup s server.ctx.presence.sessions = none := by
  cases found : AList.lookup s server.ctx.presence.sessions with
  | none => rfl
  | some entry =>
      obtain ⟨_, user⟩ := tidy.registered s entry found
      obtain ⟨c, there, same⟩ := Option.map_eq_some_iff.mp user
      have isOpen := congrArg User.isOpen same
      rw [gone c there] at isOpen
      cases isOpen

theorem entries_erase_lt {tasks : Table Nat RelayTask} {seq : Nat} {task : RelayTask}
    (running : AList.lookup seq tasks = some task) :
    (AList.erase seq tasks).entries.length < tasks.entries.length := by
  have member : seq ∈ tasks.entries.keys :=
    AList.mem_keys.mp (AList.lookup_isSome.mp (Option.isSome_of_eq_some running))
  have shorter : tasks.entries.length = (tasks.entries.kerase seq).length + 1 := by
    obtain ⟨value, before, after, _, split, erased⟩ := List.exists_of_kerase member
    rw [erased, split]
    simp only [List.length_append, List.length_cons]
    omega
  show (tasks.entries.kerase seq).length < _
  omega

theorem drops_of_gone (tidy : Tidy server) (gone : Gone server s) : ∃ drops last,
    (∀ e ∈ drops, ∃ seq, e = .taskDrop s seq) ∧ (step env).run server drops = some last ∧
      ∀ source seq, last.ctx.channelRouter.sent source ⟨s, seq⟩ = none := by
  have nothing : ∀ server, Tidy server → (∀ c, server.connections s = some c → c.tasks.entries = []) →
      ∀ source seq, server.ctx.channelRouter.sent source ⟨s, seq⟩ = none := by
    intro server tidy idle source seq
    cases attached : server.ctx.channelRouter.sent source ⟨s, seq⟩ with
    | none => rfl
    | some log =>
        obtain ⟨c, task, there, running, _⟩ := tidy.held source s seq (Option.isSome_of_eq_some attached)
        have member := AList.mem_lookup_iff.mp running
        rw [idle c there] at member
        cases member
  cases there : server.connections s with
  | none => exact ⟨[], server, by simp, rfl, nothing server tidy fun c found => by simp [there] at found⟩
  | some c =>
      generalize size : c.tasks.entries.length = n
      induction n using Nat.strong_induction_on generalizing server c with
      | _ n ih =>
          cases entries : c.tasks.entries with
          | nil =>
              refine ⟨[], server, by simp, rfl, nothing server tidy fun d found => ?_⟩
              obtain rfl := Option.some.inj (there.symm.trans found)
              exact entries
          | cons entry rest =>
              have running : AList.lookup entry.1 c.tasks = some entry.2 :=
                AList.mem_lookup_iff.mpr (by simp [entries])
              have aborted := aborted_of_gone tidy gone there running
              have taken : step env server (.taskDrop s entry.1) =
                  some (server.dropTask s entry.1 entry.2 c) := by
                simp [step, taskDropStep, there, running, aborted]
              have after := connections_dropTask s entry.1 entry.2 c server
              have closed : Gone (server.dropTask s entry.1 entry.2 c) s := fun d found => by
                obtain rfl := Option.some.inj (after.symm.trans found)
                exact gone c there
              obtain ⟨drops, last, only, reached, silent⟩ := ih _ (size ▸ entries_erase_lt running)
                (tidy_step _ _ _ tidy taken) closed _ after rfl
              refine ⟨.taskDrop s entry.1 :: drops, last, ?_, ?_, silent⟩
              · simpa using only
              · exact Step.run_cons_iff.mpr ⟨_, taken, reached⟩

/-- A receiver of the router is one of a relay task, and of a session without an open connection nothing is
left but tasks that are aborted: when they have been dropped, the router knows nothing of it. -/
theorem nothing_left_behind {config : RateLimitConfig} {timeout : Nat} {hasRedis hasWebPush : Bool}
    {es : List Event} (reached : (step env).run (start config timeout hasRedis hasWebPush) es = some server) :
    (∀ source s seq, (server.ctx.channelRouter.sent source ⟨s, seq⟩).isSome = true →
      ∃ c task, server.connections s = some c ∧ AList.lookup seq c.tasks = some task ∧
        task.source = source) ∧
    ∀ s, Gone server s → server.ctx.rateLimiter.perSession s = none ∧
      AList.lookup s server.ctx.presence.sessions = none ∧
      (∀ c seq task, server.connections s = some c → AList.lookup seq c.tasks = some task →
        task.aborted = true) ∧
      ∃ drops last, (∀ e ∈ drops, ∃ seq, e = .taskDrop s seq) ∧
        (step env).run server drops = some last ∧
          ∀ source seq, last.ctx.channelRouter.sent source ⟨s, seq⟩ = none := by
  have tidy := Step.run_invariant tidy_step reached (tidy_start env config timeout hasRedis hasWebPush)
  refine ⟨tidy.held, fun s gone => ⟨tidy.bucketed s gone, presence_of_gone tidy gone, ?_, drops_of_gone tidy gone⟩⟩
  intro c seq task there running
  exact aborted_of_gone tidy gone there running

end

section Sample
open SampleToken Sample

/-- Alice's session after its connection has closed: the relay of its inbox is aborted but not dropped. -/
def signedOut : Server :=
  ((signedIn false).setCtx (leave sessionOne aliceConnection epoch (signedIn false).ctx)).setConnection
    sessionOne aliceConnection.shut

theorem run_signedOut : (step env).run (started false) (signInEvents ++ [.disconnect sessionOne epoch]) =
    some signedOut :=
  Step.run_concat_iff.mpr ⟨_, run_signedIn false, step_disconnect env epoch (waiting_signedIn false)⟩

theorem connections_signedOut : signedOut.connections sessionOne = some aliceConnection.shut :=
  (connections_setConnection sessionOne sessionOne _ _).trans (if_pos rfl)

theorem nothing_left_behind_signedOut : (∃ seq task, AList.lookup seq aliceConnection.shut.tasks = some task) ∧
    (∀ source s seq, (signedOut.ctx.channelRouter.sent source ⟨s, seq⟩).isSome = true →
      ∃ c task, signedOut.connections s = some c ∧ AList.lookup seq c.tasks = some task ∧ task.source = source) ∧
    signedOut.ctx.rateLimiter.perSession sessionOne = none ∧
      AList.lookup sessionOne signedOut.ctx.presence.sessions = none ∧
      (∀ c seq task, signedOut.connections sessionOne = some c → AList.lookup seq c.tasks = some task →
        task.aborted = true) ∧
      ∃ drops last, (∀ e ∈ drops, ∃ seq, e = .taskDrop sessionOne seq) ∧
        (step env).run signedOut drops = some last ∧
          ∀ source seq, last.ctx.channelRouter.sent source ⟨sessionOne, seq⟩ = none := by
  have gone : Gone signedOut sessionOne := by
    intro c there
    obtain rfl := Option.some.inj (connections_signedOut.symm.trans there)
    rfl
  obtain ⟨attached, left⟩ := nothing_left_behind run_signedOut
  exact ⟨⟨0, _, rfl⟩, attached, left sessionOne gone⟩

end Sample

end RealtimePlatform.Proof.Leftovers
