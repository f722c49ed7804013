import RealtimePlatform.Backend.TenantPart
import RealtimePlatform.Backend.Attendance
import RealtimePlatform.Proof.Handling

namespace RealtimePlatform.Proof.Noninterference
open Library Backend Backend.Server Backend.UseCases

inductive Seen where
  | handled (s : SessionId) (frame : Frame) (now : Clock)
  | closed (s : SessionId) (now : Clock)
  | dropped (source : Source) (rx : ReceiverId)
  | swept (order : List SessionId) (now : Clock)
  | published (channelId payload : String) (now : Clock)
  | reinjected (frame : Frame) (now : Clock)
  | administered (op : AdminOp)

def droppedReceiver (tenantId : TenantId) (server : Server) (s : SessionId) (seq : Nat)
    (ends : Connection → RelayTask → Bool) : Option Seen :=
  (server.connections s).bind fun c => (AList.lookup seq c.tasks).bind fun task =>
    if ends c task && task.source.tenantId = tenantId then some (.dropped task.source ⟨s, seq⟩) else none

def view (env : Env) (tenantId : TenantId) (own : SessionId → Bool) (server : Server) :
    Event → Option Seen
  | .inbound s bytes now =>
    if own s then (handledFrame server s bytes now).map (.handled s · now) else none
  | .disconnect s now => if own s then some (.closed s now) else none
  | .relayRecv s seq => droppedReceiver tenantId server s seq fun _ task =>
      (server.ctx.channelRouter.receive task.source ⟨s, seq⟩ task.next).isOver
  | .relaySend s seq => droppedReceiver tenantId server s seq fun c _ => !c.isOpen
  | .taskDrop s seq => droppedReceiver tenantId server s seq fun _ _ => true
  | .sweep order now => some (.swept (order.filter own) now)
  | .http request now =>
    if request.tenantId = tenantId then
      (publishedText env request now server.ctx).map (.published request.channelId · now)
    else none
  | .clusterReceive payload now =>
    ((remoteFrame env.instanceId payload).filter fun frame => frame.tenantId = tenantId).map
      (.reinjected · now)
  | .admin op => some (.administered op)
  | _ => none

def who (server : Server) (s : SessionId) : Option TenantId × Nat :=
  (server.connections s).elim (none, 0) fun c => (c.authenticatedTenant, c.spawned)

/-- Two instances with the same part of the tenant and the same sessions of `own`. -/
structure Agree (tenantId : TenantId) (own : SessionId → Bool) (server server' : Server) : Prop where
  services : RealtimeContext.Agree tenantId own server.ctx server'.ctx
  who : ∀ s, own s = true → who server s = who server' s

section
variable {env : Env} {tenantId : TenantId} {own : SessionId → Bool} {server server' t t' : Server}
  {s : SessionId} {c : Connection}

theorem Agree.refl (tenantId : TenantId) (own : SessionId → Bool) (server : Server) :
    Agree tenantId own server server :=
  ⟨.refl tenantId own _, fun _ _ => rfl⟩

theorem Agree.symm (agree : Agree tenantId own server server') : Agree tenantId own server' server :=
  ⟨agree.services.symm, fun s mine => (agree.who s mine).symm⟩

theorem Agree.trans (agree : Agree tenantId own server server') (next : Agree tenantId own server' t) :
    Agree tenantId own server t :=
  ⟨agree.services.trans next.services, fun s mine => (agree.who s mine).trans (next.who s mine)⟩

theorem who_setConnection (server : Server) (ctx : RealtimeContext) (s q : SessionId)
    (c : Connection) : who ((server.setCtx ctx).setConnection s c) q =
      if q = s then (c.authenticatedTenant, c.spawned) else who server q := by
  unfold who
  rw [connections_setConnection, setCtx_connections]
  split <;> rfl

theorem who_same {c' : Connection} (ctx : RealtimeContext) (there : server.connections s = some c)
    (tenant : c'.authenticatedTenant = c.authenticatedTenant) (spawned : c'.spawned = c.spawned)
    (q : SessionId) : who ((server.setCtx ctx).setConnection s c') q = who server q := by
  rw [who_setConnection]
  split
  · rename_i here
    simp [who, here, there, tenant, spawned]
  · rfl

theorem who_dropTask {seq : Nat} {task : RelayTask} (there : server.connections s = some c)
    (q : SessionId) : who (server.dropTask s seq task c) q = who server q := by
  unfold dropTask
  refine who_same _ there ?_ ?_ q
  · rfl
  · rfl

theorem agree_set {c' : Connection} (ctx : RealtimeContext) (there : server.connections s = some c)
    (tenant : c'.authenticatedTenant = c.authenticatedTenant) (spawned : c'.spawned = c.spawned)
    (services : RealtimeContext.Agree tenantId own server.ctx ctx) :
    Agree tenantId own server ((server.setCtx ctx).setConnection s c') :=
  ⟨services, fun q _ => (who_same ctx there tenant spawned q).symm⟩

theorem agree_set_other {c' : Connection} (ctx : RealtimeContext) (others : own s = false)
    (services : RealtimeContext.Agree tenantId own server.ctx ctx) :
    Agree tenantId own server ((server.setCtx ctx).setConnection s c') where
  services := services
  who q mine := by
    rw [who_setConnection, if_neg (PresenceService.ne_of_others others mine)]

theorem foreign_of_registered (registered : Registered server.ctx.presence server.users)
    (owned : Owned tenantId own server) :
    RealtimeContext.Foreign tenantId own server.ctx.presence := by
  intro s entry others found named
  obtain ⟨c, there, same⟩ := Option.map_eq_some_iff.mp (registered s entry found).2
  have tenant : c.authenticatedTenant = some tenantId := by
    rw [(User.mk.inj same).2, named]
  rw [owned s c there tenant] at others
  cases others

section
variable {seq : Nat} {task : RelayTask} {ends : Connection → RelayTask → Bool}

theorem droppedReceiver_eq (there : server.connections s = some c)
    (running : AList.lookup seq c.tasks = some task) : droppedReceiver tenantId server s seq ends =
      if ends c task && task.source.tenantId = tenantId then some (.dropped task.source ⟨s, seq⟩)
      else none := by
  simp only [droppedReceiver, there, running, Option.bind_some]

theorem source_of_hidden (there : server.connections s = some c)
    (running : AList.lookup seq c.tasks = some task)
    (hidden : droppedReceiver tenantId server s seq ends = none) (finished : ends c task = true) :
    task.source.tenantId ≠ tenantId := by
  intro named
  simp [droppedReceiver_eq there running, finished, named] at hidden

theorem source_of_seen {l : Seen} (there : server.connections s = some c)
    (running : AList.lookup seq c.tasks = some task)
    (seen : droppedReceiver tenantId server s seq ends = some l) :
    ends c task = true ∧ l = .dropped task.source ⟨s, seq⟩ := by
  rw [droppedReceiver_eq there running] at seen
  split at seen
  · rename_i both
    exact ⟨(Bool.and_eq_true _ _ |>.mp both).1, (Option.some.inj seen).symm⟩
  · cases seen

end

theorem agree_dropTask {seq : Nat} {task : RelayTask} (there : server.connections s = some c)
    (others : task.source.tenantId ≠ tenantId) :
    Agree tenantId own server (server.dropTask s seq task c) := by
  refine agree_set _ there rfl rfl ?_
  exact ⟨rfl, .detach_other others _ _, fun _ _ => rfl⟩

theorem agree_httpStep_silent {request : HttpRequest} {now : Clock} {ctx : RealtimeContext}
    (text : publishedText env request now ctx = none) :
    RealtimeContext.Agree tenantId own ctx (httpStep env request now ctx) := by
  have charged : RealtimeContext.Agree tenantId own ctx (chargedTenant request.tenantId now ctx) :=
    ⟨rfl, .refl tenantId _, fun _ _ => rfl⟩
  rw [httpStep_eq]
  by_cases admissible : request.admissible env.codec ctx.auth now.unixSecs = true
  · rw [if_pos admissible]
    by_cases allowed : (ctx.rateLimiter.checkTenant request.tenantId now.instant).1 = true
    · simp only [publishedText, admissible, allowed, Bool.and_self, if_true] at text
      rw [if_pos allowed, text]
      exact charged
    · rw [if_neg allowed]
      exact charged
  · rw [if_neg admissible]
    exact .refl tenantId own ctx

theorem agree_httpStep_other {request : HttpRequest} (others : request.tenantId ≠ tenantId) (now : Clock)
    (ctx : RealtimeContext) :
    RealtimeContext.Agree tenantId own ctx (httpStep env request now ctx) := by
  cases text : publishedText env request now ctx with
  | none => exact agree_httpStep_silent text
  | some payload =>
      have charged : RealtimeContext.Agree tenantId own ctx (chargedTenant request.tenantId now ctx) :=
        ⟨rfl, .refl tenantId _, fun _ _ => rfl⟩
      rw [httpStep_of_text text]
      exact charged.trans (.publishBuilt_other others _ _ now _)

theorem agree_handled_other {bytes : List UInt8} {now : Clock} {frame : Frame}
    {command : FrameCommand} {tenant : Option TenantId} {ctx : RealtimeContext}
    (handles : Handles env server s bytes now c frame command tenant ctx) (others : own s = false)
    (before : c.authenticatedTenant ≠ some tenantId) (after : tenant ≠ some tenantId)
    (foreign : RealtimeContext.Foreign tenantId own server.ctx.presence) :
    RealtimeContext.Agree tenantId own server.ctx
      (settled s now (returned env server s now c frame tenant) frame command ctx) := by
  have charging : RealtimeContext.Agree tenantId own server.ctx (charged s frame now server.ctx) :=
    ⟨rfl, .refl tenantId _, fun _ _ => rfl⟩
  have dispatched := handles.dispatched
  have returns := charging.trans (dispatched.agree_other others before after)
  have recorded : RealtimeContext.Agree tenantId own server.ctx { ctx with
      metrics := ctx.metrics.recordFrame frame.tenantId frame.opcode.label } :=
    ⟨returns.auth, returns.router, returns.presence⟩
  cases command with
  | closeAuthFailed =>
      have same : ctx.presence = server.ctx.presence := by
        cases dispatched
        rfl
      exact recorded.trans (.leave_other others (same ▸ foreign) _ now)
  | _ => exact recorded

theorem tenant_react (frame : Frame) (command : FrameCommand) (c : Connection) :
    (react frame command c).authenticatedTenant = c.authenticatedTenant := by
  cases command <;> rfl

theorem found_setConnection (server : Server) (s : SessionId) (c : Connection) :
    (server.setConnection s c).connections s = some c :=
  (connections_setConnection s s c server).trans (if_pos rfl)

theorem agree_hidden {e : Event} (owned : Owned tenantId own server) (owned' : Owned tenantId own server')
    (registered : Registered server.ctx.presence server.users)
    (hidden : view env tenantId own server e = none) (taken : step env server e = some server') :
    Agree tenantId own server server' := by
  have foreign := foreign_of_registered registered owned
  cases step_cases taken with
  | connected fresh =>
      refine ⟨⟨rfl, .refl tenantId _, fun _ _ => rfl⟩, fun q _ => ?_⟩
      rw [who_setConnection]
      split
      · rename_i here
        simp [who, here, fresh, Connection.new]
      · rfl
  | limited => exact ⟨⟨rfl, .refl tenantId _, fun _ _ => rfl⟩, fun _ _ => rfl⟩
  | handled handles =>
      rename_i s bytes now c frame command tenant ctx
      have there := (waiting_eq_some handles.ready).1
      cases mine : own s with
      | true => simp [view, mine, handledFrame_of_admitted handles.toAdmitted] at hidden
      | false =>
          have outside : ∀ q, q = some tenantId → tenant = q → False := by
            rintro _ rfl rfl
            have found := found_setConnection (server.setCtx (settled s now
              (returned env server s now c frame (some tenantId)) frame command ctx)) s
                (react frame command (returned env server s now c frame (some tenantId)))
            have kept := owned' s _ found ((tenant_react frame command _).trans rfl)
            rw [mine] at kept
            cases kept
          have before : c.authenticatedTenant ≠ some tenantId := by
            intro named
            rw [owned s c there named] at mine
            cases mine
          exact agree_set_other _ mine (agree_handled_other handles mine before
            (fun named => outside _ rfl named) foreign)
  | received there | queued there | replayed there =>
      exact agree_set server.ctx there rfl rfl (.refl tenantId own _)
  | wrote ready =>
      exact agree_set server.ctx (waiting_eq_some ready).1 rfl rfl (.refl tenantId own _)
  | ended there running finished => exact agree_dropTask there (source_of_hidden there running hidden finished)
  | orphaned there running shut =>
      exact agree_dropTask there (source_of_hidden there running hidden (by rw [shut]; rfl))
  | dropped there running => exact agree_dropTask there (source_of_hidden there running hidden rfl)
  | closed ready =>
      rename_i s now c
      cases mine : own s with
      | true => simp [view, mine] at hidden
      | false => exact agree_set_other _ mine (.leave_other mine foreign c now)
  | swept => simp [view] at hidden
  | requested =>
      rename_i request now
      refine ⟨?_, fun _ _ => rfl⟩
      by_cases named : request.tenantId = tenantId
      · simp only [view, named, if_true, Option.map_eq_none_iff] at hidden
        exact agree_httpStep_silent hidden
      · exact agree_httpStep_other named now server.ctx
  | administered => simp [view] at hidden
  | sent => exact ⟨⟨rfl, .refl tenantId _, fun _ _ => rfl⟩, fun _ _ => rfl⟩
  | unparsed | passed => exact .refl tenantId own server
  | reinjected found =>
      rename_i payload now frame
      refine ⟨.reinject_other (fun named => ?_) now server.ctx, fun _ _ => rfl⟩
      simp [view, found, named] at hidden
  | persisted port =>
      exact ⟨⟨rfl, ⟨rfl, by rw [port]; rfl, fun _ _ => rfl, fun _ _ => rfl, rfl⟩, fun _ _ => rfl⟩,
        fun _ _ => rfl⟩
  | added => exact ⟨.refl tenantId own _, fun _ _ => rfl⟩

def After (env : Env) (own : SessionId → Bool) (tenantId : TenantId) (server server' : Server) :
    Seen → Prop
  | .handled s frame now => own s = true ∧ ∃ bytes c command tenant ctx,
      Handles env server s bytes now c frame command tenant ctx ∧
      server' = (server.setCtx (settled s now (returned env server s now c frame tenant) frame command
        ctx)).setConnection s (react frame command (returned env server s now c frame tenant))
  | .closed s now => own s = true ∧ ∃ c, server.connections s = some c ∧
      server' = (server.setCtx (leave s c now server.ctx)).setConnection s c.shut
  | .dropped source rx => ∃ c task, server.connections rx.session = some c ∧ task.source = source ∧
      server' = server.dropTask rx.session rx.seq task c
  | .swept order now => ∃ whole, whole.filter own = order ∧
      server' = server.setCtx (server.ctx.sweep whole now)
  | .published channelId payload now => server' = server.setCtx
      (publishBuilt tenantId channelId payload now (chargedTenant tenantId now server.ctx))
  | .reinjected frame now => server' = server.setCtx (reinject frame now server.ctx)
  | .administered op => server' = server.setCtx (adminStep op server.ctx)

theorem after_of_seen {e : Event} {l : Seen} (seen : view env tenantId own server e = some l)
    (taken : step env server e = some server') : After env own tenantId server server' l := by
  cases step_cases taken with
  | unparsed ready parsed =>
      rename_i s bytes now c err
      cases mine : own s <;>
        simp [view, mine, handledFrame, ready, parsed, Except.toOption] at seen
  | limited ready parsed refused =>
      rename_i s bytes now c frame
      cases mine : own s <;>
        simp [view, mine, handledFrame, ready, parsed, Except.toOption, refused] at seen
  | handled handles =>
      rename_i s bytes now c frame command tenant ctx
      cases mine : own s with
      | false => simp [view, mine] at seen
      | true =>
          simp only [view, mine, if_true, handledFrame_of_admitted handles.toAdmitted, Option.map_some,
            Option.some.injEq] at seen
          exact seen ▸ ⟨mine, bytes, c, command, tenant, ctx, handles, rfl⟩
  | received there running free got =>
      have finished := (source_of_seen there running seen).1
      rw [got] at finished
      cases finished
  | queued there running holding isOpen =>
      have shut := (source_of_seen there running seen).1
      rw [isOpen] at shut
      cases shut
  | ended there running | orphaned there running | dropped there running =>
      exact (source_of_seen there running seen).2 ▸ ⟨_, _, there, rfl, rfl⟩
  | closed ready =>
      rename_i s now c
      cases mine : own s with
      | false => simp [view, mine] at seen
      | true =>
          simp only [view, mine, if_true, Option.some.injEq] at seen
          exact seen ▸ ⟨mine, c, (waiting_eq_some ready).1, rfl⟩
  | swept listed => exact Option.some.inj seen ▸ ⟨_, rfl, rfl⟩
  | requested =>
      rename_i request now
      by_cases named : request.tenantId = tenantId
      · simp only [view, named, if_true, Option.map_eq_some_iff] at seen
        obtain ⟨payload, text, rfl⟩ := seen
        have published := httpStep_of_text text
        rw [named] at published
        exact congrArg server.setCtx published
      · simp [view, named] at seen
  | administered => exact Option.some.inj seen ▸ rfl
  | reinjected found =>
      rename_i payload now frame
      simp only [view, found, Option.map_eq_some_iff, Option.filter_eq_some_iff, Option.some.injEq] at seen
      obtain ⟨_, ⟨rfl, _⟩, rfl⟩ := seen
      rfl
  | passed found => simp [view, found] at seen
  | _ => cases seen

theorem agree_set_both {c' d' : Connection} {ctx ctx' : RealtimeContext}
    (agree : Agree tenantId own server t) (services : RealtimeContext.Agree tenantId own ctx ctx')
    (s : SessionId) (tenant : c'.authenticatedTenant = d'.authenticatedTenant)
    (spawned : c'.spawned = d'.spawned) :
    Agree tenantId own ((server.setCtx ctx).setConnection s c') ((t.setCtx ctx').setConnection s d') where
  services := services
  who q mine := by
    rw [who_setConnection, who_setConnection, tenant, spawned, agree.who q mine]

theorem who_eq {c d : Connection} (agree : Agree tenantId own server t) (mine : own s = true)
    (there : server.connections s = some c) (there' : t.connections s = some d) :
    c.authenticatedTenant = d.authenticatedTenant ∧ c.spawned = d.spawned := by
  have same := agree.who s mine
  simp only [who, there, there', Option.elim_some, Prod.mk.injEq] at same
  exact same

theorem spawned_react {c d : Connection} {command command' : FrameCommand} (frame : Frame)
    (like : FrameCommand.Like command command') (same : c.spawned = d.spawned) :
    (react frame command c).spawned = (react frame command' d).spawned := by
  cases like with
  | same => cases command <;> simp [react, Connection.spawnRelay, Connection.abortAt,
      Connection.unsubscribe, Connection.write, Connection.shut, same]
  | replayed => exact same

theorem agree_handled {bytes bytes' : List UInt8} {now : Clock} {frame : Frame}
    {command command' : FrameCommand} {tenant tenant' : Option TenantId} {ctx ctx' : RealtimeContext}
    {d : Connection} (agree : Agree tenantId own server t) (mine : own s = true)
    (handles : Handles env server s bytes now c frame command tenant ctx)
    (handles' : Handles env t s bytes' now d frame command' tenant' ctx') :
    Agree tenantId own
      ((server.setCtx (settled s now (returned env server s now c frame tenant) frame command
        ctx)).setConnection s (react frame command (returned env server s now c frame tenant)))
      ((t.setCtx (settled s now (returned env t s now d frame tenant') frame command'
        ctx')).setConnection s (react frame command' (returned env t s now d frame tenant'))) := by
  obtain ⟨who, spawned⟩ := who_eq agree mine (waiting_eq_some handles.ready).1
    (waiting_eq_some handles'.ready).1
  have charging : RealtimeContext.Agree tenantId own (charged s frame now server.ctx)
      (charged s frame now t.ctx) :=
    ⟨agree.services.auth, agree.services.router, agree.services.presence⟩
  have executed := handles.executed
  rw [who, spawned] at executed
  have alike := executeInner_alike env.codec server.redis t.redis s ⟨s, d.spawned⟩
    d.authenticatedTenant frame now charging
  rw [executed, handles'.executed] at alike
  obtain ⟨like, rfl, services⟩ := alike
  refine agree_set_both agree ?_ s ?_ (spawned_react frame like spawned)
  · have recorded : RealtimeContext.Agree tenantId own
        { ctx with metrics := ctx.metrics.recordFrame frame.tenantId frame.opcode.label }
        { ctx' with metrics := ctx'.metrics.recordFrame frame.tenantId frame.opcode.label } :=
      ⟨services.auth, services.router, services.presence⟩
    cases like with
    | same =>
        cases command with
        | closeAuthFailed =>
            have same : (returned env server s now c frame tenant).authenticatedTenant =
                (returned env t s now d frame tenant).authenticatedTenant := rfl
            exact recorded.leave mine same now
        | _ => exact recorded
    | replayed => exact recorded
  · rw [tenant_react, tenant_react]
    rfl

theorem agree_seen {l : Seen} (agree : Agree tenantId own server t)
    (foreign : RealtimeContext.Foreign tenantId own server.ctx.presence)
    (foreign' : RealtimeContext.Foreign tenantId own t.ctx.presence)
    (after : After env own tenantId server server' l) (after' : After env own tenantId t t' l) :
    Agree tenantId own server' t' := by
  cases l with
  | handled s frame now =>
      obtain ⟨mine, bytes, c, command, tenant, ctx, handles, rfl⟩ := after
      obtain ⟨_, bytes', d, command', tenant', ctx', handles', rfl⟩ := after'
      exact agree_handled agree mine handles handles'
  | closed s now =>
      obtain ⟨mine, c, there, rfl⟩ := after
      obtain ⟨_, d, there', rfl⟩ := after'
      obtain ⟨tenant, spawned⟩ := who_eq agree mine there there'
      exact agree_set_both agree (agree.services.leave mine tenant now) s tenant spawned
  | dropped source rx =>
      obtain ⟨c, task, there, rfl, rfl⟩ := after
      obtain ⟨d, task', there', same, rfl⟩ := after'
      refine ⟨⟨agree.services.auth, ?_, agree.services.presence⟩, fun q mine => ?_⟩
      · have detached := agree.services.router.detach task.source rx
        have dropped : (t.dropTask rx.session rx.seq task' d).ctx.channelRouter =
            t.ctx.channelRouter.detach task.source rx := by rw [← same]; rfl
        rw [dropped]
        exact detached
      · rw [who_dropTask there, who_dropTask there']
        exact agree.who q mine
  | swept order now =>
      obtain ⟨whole, rfl, rfl⟩ := after
      obtain ⟨whole', same, rfl⟩ := after'
      exact ⟨agree.services.sweep foreign foreign' now same.symm, agree.who⟩
  | published channelId payload now =>
      obtain rfl := after
      obtain rfl := after'
      have charging : RealtimeContext.Agree tenantId own (chargedTenant tenantId now server.ctx)
          (chargedTenant tenantId now t.ctx) :=
        ⟨agree.services.auth, agree.services.router, agree.services.presence⟩
      exact ⟨charging.publishBuilt tenantId channelId payload now, agree.who⟩
  | reinjected frame now =>
      obtain rfl := after
      obtain rfl := after'
      exact ⟨agree.services.reinject frame now, agree.who⟩
  | administered op =>
      obtain rfl := after
      obtain rfl := after'
      exact ⟨agree.services.adminStep op, agree.who⟩

structure Sound (tenantId : TenantId) (own : SessionId → Bool) (server : Server) : Prop where
  owned : Owned tenantId own server
  registered : Registered server.ctx.presence server.users

theorem Sound.foreign (sound : Sound tenantId own server) :
    RealtimeContext.Foreign tenantId own server.ctx.presence :=
  foreign_of_registered sound.registered sound.owned

theorem unwinds (env : Env) (tenantId : TenantId) (own : SessionId → Bool) :
    Step.Unwinds (step env) (view env tenantId own) (Sound tenantId own) (Agree tenantId own) where
  left agree before after hidden taken :=
    (agree_hidden before.owned after.owned before.registered hidden taken).symm.trans agree
  right agree before after hidden taken :=
    agree.trans (agree_hidden before.owned after.owned before.registered hidden taken)
  both agree before _ before' _ seen seen' taken taken' :=
    agree_seen agree before.foreign before'.foreign (after_of_seen seen taken)
      (after_of_seen seen' taken')

/-- What a receiver of the tenant was sent until it is dropped. -/
def lastLog (env : Env) (tenantId : TenantId) (own : SessionId → Bool) (server : Server) (e : Event) :
    Option (Option (List Message)) :=
  match view env tenantId own server e with
  | some (.dropped source rx) => some (server.ctx.channelRouter.sent source rx)
  | _ => none

theorem tenant_of_droppedReceiver {seq : Nat} {ends : Connection → RelayTask → Bool} {source : Source}
    {rx : ReceiverId} (seen : droppedReceiver tenantId server s seq ends = some (.dropped source rx)) :
    source.tenantId = tenantId := by
  obtain ⟨c, _, rest⟩ := Option.bind_eq_some_iff.mp seen
  obtain ⟨task, _, dropping⟩ := Option.bind_eq_some_iff.mp rest
  split at dropping
  · rename_i both
    obtain ⟨rfl, rfl⟩ := Seen.dropped.inj (Option.some.inj dropping)
    exact of_decide_eq_true (Bool.and_eq_true _ _ |>.mp both).2
  · cases dropping

theorem tenant_of_dropped {e : Event} {source : Source} {rx : ReceiverId}
    (seen : view env tenantId own server e = some (.dropped source rx)) : source.tenantId = tenantId := by
  cases e with
  | relayRecv s seq => exact tenant_of_droppedReceiver seen
  | relaySend s seq => exact tenant_of_droppedReceiver seen
  | taskDrop s seq => exact tenant_of_droppedReceiver seen
  | inbound s bytes now => cases mine : own s <;> simp [view, mine] at seen
  | disconnect s now => cases mine : own s <;> simp [view, mine] at seen
  | http request now =>
      by_cases named : request.tenantId = tenantId <;> simp [view, named] at seen
  | _ => simp [view] at seen

theorem reads_lastLog (env : Env) (tenantId : TenantId) (own : SessionId → Bool) :
    Step.Reads (step env) (view env tenantId own) (lastLog env tenantId own) (Sound tenantId own)
      (Agree tenantId own) where
  hidden hidden := by simp only [lastLog, hidden]
  same agree _ _ seen seen' _ _ := by
    simp only [lastLog, seen, seen']
    split
    · rename_i source rx dropping
      cases dropping
      rw [agree.services.router.sent (tenant_of_dropped seen) rx]
    · rfl

theorem sound_throughout {config : RateLimitConfig} {timeout : Nat} {hasRedis hasWebPush : Bool}
    {es : List Event}
    (owned : (step env).Throughout (Owned tenantId own) (start config timeout hasRedis hasWebPush) es) :
    (step env).Throughout (Sound tenantId own) (start config timeout hasRedis hasWebPush) es := by
  rw [Step.throughout_iff_prefixes] at owned ⊢
  intro ds t short reached
  exact ⟨owned ds t short reached, Step.run_invariant registered_step reached
    (registered_start config timeout hasRedis hasWebPush)⟩

end

/-- Two runs that differ only in the frames handled on sessions that are never authenticated as the
tenant end with the same channels, histories and wildcards of the tenant, the same answers to its
publishes, the same entries, and the same frames sent to every receiver obtained for it, be it still
attached or dropped on the way. -/
theorem part_kept {env : Env} {config : RateLimitConfig} {timeout : Nat} {hasRedis hasWebPush : Bool}
    {es ds : List Event} {server server' : Server} {tenantId : TenantId} {own : SessionId → Bool}
    (reached : (step env).run (start config timeout hasRedis hasWebPush) es = some server)
    (reached' : (step env).run (start config timeout hasRedis hasWebPush) ds = some server')
    (owned : (step env).Throughout (Owned tenantId own) (start config timeout hasRedis hasWebPush) es)
    (owned' : (step env).Throughout (Owned tenantId own) (start config timeout hasRedis hasWebPush) ds)
    (same : (step env).observed (view env tenantId own) (start config timeout hasRedis hasWebPush) es =
      (step env).observed (view env tenantId own) (start config timeout hasRedis hasWebPush) ds) :
    ChannelRouterService.Agree tenantId server.ctx.channelRouter server'.ctx.channelRouter ∧
      (∀ s entry, entry.tenantId = tenantId →
        (AList.lookup s server.ctx.presence.sessions = some entry ↔
          AList.lookup s server'.ctx.presence.sessions = some entry)) ∧
      (∀ source rx, source.tenantId = tenantId →
        server.ctx.channelRouter.sent source rx = server'.ctx.channelRouter.sent source rx) ∧
      (step env).observed (lastLog env tenantId own) (start config timeout hasRedis hasWebPush) es =
        (step env).observed (lastLog env tenantId own) (start config timeout hasRedis hasWebPush) ds := by
  have sound := sound_throughout owned
  have sound' := sound_throughout owned'
  obtain ⟨agree, logs⟩ := (unwinds env tenantId own).run_reads (reads_lastLog env tenantId own)
    (Agree.refl tenantId own _) sound sound' reached reached' same
  have ended := (Step.throughout_iff_prefixes.mp sound es server List.prefix_rfl reached).foreign
  have ended' := (Step.throughout_iff_prefixes.mp sound' ds server' List.prefix_rfl reached').foreign
  refine ⟨agree.services.router, fun s entry named => ?_, fun source rx mine => ?_, logs⟩
  · cases mine : own s with
    | true => rw [agree.services.presence s mine]
    | false =>
        constructor
        · intro found
          exact absurd named (ended s entry mine found)
        · intro found
          exact absurd named (ended' s entry mine found)
  · exact agree.services.router.sent mine rx

section Sample
open SampleToken Sample

def aliceOnly (s : SessionId) : Bool := s = sessionOne

theorem owned_set {server : Server} {ctx : RealtimeContext} {s : SessionId} {c : Connection}
    (owned : Owned tenantOne aliceOnly server)
    (mine : c.authenticatedTenant = some tenantOne → aliceOnly s = true) :
    Owned tenantOne aliceOnly ((server.setCtx ctx).setConnection s c) := by
  intro q d found tenant
  rw [connections_setConnection] at found
  split at found
  · rename_i here
    obtain rfl := Option.some.inj found
    exact here ▸ mine tenant
  · exact owned q d found tenant

theorem owned_signedIn : (step env).Throughout (Owned tenantOne aliceOnly) (started false) signInEvents ∧
    Owned tenantOne aliceOnly (signedIn false) := by
  have nobody : Owned tenantOne aliceOnly (registered false) := by
    rintro s c ⟨⟩
  have opened : Owned tenantOne aliceOnly (connected sessionOne (registered false)) :=
    owned_set nobody fun tenant => by cases tenant
  have ended : Owned tenantOne aliceOnly (signedIn false) := owned_set opened fun _ => by decide
  refine ⟨⟨by rintro s c ⟨⟩, fun t first => ?_⟩, ended⟩
  obtain rfl := Option.some.inj ((step_registered false).symm.trans first)
  refine ⟨nobody, fun t second => ?_⟩
  obtain rfl := Option.some.inj ((step_connected rfl).symm.trans second)
  refine ⟨opened, fun t third => ?_⟩
  obtain rfl := Option.some.inj ((step_signedIn false).symm.trans third)
  exact ended

theorem part_kept_spoofed :
    let server := signedIn false
    let server' := afterSpoofed tenantOne (signedIn false)
    ChannelRouterService.Agree tenantOne server.ctx.channelRouter server'.ctx.channelRouter ∧
      (∀ s entry, entry.tenantId = tenantOne →
        (AList.lookup s server.ctx.presence.sessions = some entry ↔
          AList.lookup s server'.ctx.presence.sessions = some entry)) ∧
      (∀ source rx, source.tenantId = tenantOne →
        server.ctx.channelRouter.sent source rx = server'.ctx.channelRouter.sent source rx) ∧
      (step env).observed (lastLog env tenantOne aliceOnly) (started false) signInEvents =
        (step env).observed (lastLog env tenantOne aliceOnly) (started false)
          (signInEvents ++ spoofedEvents tenantOne) := by
  have fresh := connections_signedIn false sessionTwo
  have allowed : ((signedIn false).ctx.rateLimiter.check sessionTwo tenantOne epoch.instant).1 = true := by
    decide +kernel
  have reached := Step.run_append_iff.mpr ⟨_, run_signedIn false, run_spoofed tenantOne fresh allowed⟩
  obtain ⟨owned, ended⟩ := owned_signedIn
  have opened : Owned tenantOne aliceOnly (connected sessionTwo (signedIn false)) :=
    owned_set ended fun tenant => by cases tenant
  have spoofed : Owned tenantOne aliceOnly (afterSpoofed tenantOne (signedIn false)) :=
    owned_set opened fun tenant => by cases tenant
  have owned' := (Step.throughout_append (run_signedIn false)).mpr
    ⟨owned, throughout_spoofed tenantOne fresh allowed ended opened spoofed⟩
  have connects := step_connected fresh
  have views : (step env).observed (view env tenantOne aliceOnly) (started false) signInEvents =
      (step env).observed (view env tenantOne aliceOnly) (started false)
        (signInEvents ++ spoofedEvents tenantOne) := by
    have unseen : aliceOnly sessionTwo = false := by decide
    rw [Step.observed_append _ (run_signedIn false)]
    simp [spoofedEvents, Step.observed, connects, step_spoofed tenantOne allowed, view, unseen]
  exact part_kept (run_signedIn false) reached owned owned' views

end Sample

end RealtimePlatform.Proof.Noninterference
