import RealtimePlatform.Backend.Delivery
import RealtimePlatform.Backend.Moves

/-!
# The relays of a connection

`relay_tasks` names the last task spawned under each key. A connection relays under a key as long as
that task holds its receiver, and aborts no task that it still names.
-/

namespace RealtimePlatform.Backend
open Library UseCases Server

namespace Connection

/-- The source of the live relay under a name, and whether an AUTH subscribed it. -/
def relayed (c : Connection) (key : String) : Option (Source × Bool) :=
  (c.relayAt key).map fun task => (task.source, task.automatic)

theorem relayed_eq_some {c : Connection} {key : String} {task : RelayTask}
    (there : c.relayAt key = some task) : relayed c key = some (task.source, task.automatic) := by
  rw [relayed, there, Option.map_some]

def SameTasks (tasks tasks' : Table Nat RelayTask) : Prop :=
  ∀ seq, (AList.lookup seq tasks').map (fun task => (task.source, task.automatic)) =
    (AList.lookup seq tasks).map fun task => (task.source, task.automatic)

theorem relayed_congr {c c' : Connection} {key : String}
    (names : AList.lookup key c'.relayTasks = AList.lookup key c.relayTasks)
    (tasks : SameTasks c.tasks c'.tasks) : relayed c' key = relayed c key := by
  simp only [relayed, relayAt, names]
  cases AList.lookup key c.relayTasks with
  | none => rfl
  | some seq => exact tasks seq

theorem sameTasks_insert {tasks : Table Nat RelayTask} {seq : Nat} {task task' : RelayTask}
    (there : AList.lookup seq tasks = some task) (source : task'.source = task.source)
    (automatic : task'.automatic = task.automatic) :
    SameTasks tasks (AList.insert seq task' tasks) := by
  intro other
  by_cases same : other = seq
  · subst same
    rw [AList.lookup_insert, there, Option.map_some, Option.map_some, source, automatic]
  · rw [AList.lookup_insert_ne same]

def Aborts (tasks tasks' : Table Nat RelayTask) : Prop :=
  ∀ seq, ∃ aborted : RelayTask → Bool, AList.lookup seq tasks' =
    (AList.lookup seq tasks).map fun task => { task with aborted := aborted task }

theorem aborts_refl (tasks : Table Nat RelayTask) : Aborts tasks tasks :=
  fun _ => ⟨RelayTask.aborted, Option.map_id'.symm⟩

theorem aborts_abortAt (key : String) (c : Connection) : Aborts c.tasks (c.abortAt key).tasks := by
  unfold abortAt
  cases AList.lookup key c.relayTasks with
  | none => exact aborts_refl c.tasks
  | some seq =>
      intro other
      show ∃ aborted, AList.lookup other (abortTask seq c.tasks) = _
      unfold abortTask
      by_cases same : other = seq
      · subst same
        exact ⟨fun _ => true, Table.lookup_adjust _ _ _⟩
      · rw [Table.lookup_adjust_ne _ _ same]
        exact aborts_refl c.tasks other

theorem aborts_shut (c : Connection) : Aborts c.tasks c.shut.tasks := by
  intro seq
  unfold shut
  refine ⟨fun task => if c.relayTasks.entries.any (·.2 == seq) then true else task.aborted, ?_⟩
  rw [Table.lookup_rewrite]
  congr 1
  funext task
  split <;> rfl

theorem Aborts.sameTasks {tasks tasks' : Table Nat RelayTask} (aborts : Aborts tasks tasks') :
    SameTasks tasks tasks' := by
  intro seq
  obtain ⟨aborted, changed⟩ := aborts seq
  rw [changed, Option.map_map]
  rfl

def Numbered (c : Connection) : Prop :=
  ∀ key seq, AList.lookup key c.relayTasks = some seq → seq < c.spawned

theorem relayed_spawnRelay {c : Connection} (numbered : Numbered c) (name : String) (source : Source)
    (automatic : Bool) (key : String) :
    relayed (c.spawnRelay name source automatic) key =
      if key = name then some (source, automatic) else relayed c key := by
  by_cases own : key = name
  · subst own
    rw [if_pos rfl]
    simp [relayed, relayAt, spawnRelay]
  · rw [if_neg own]
    have names : AList.lookup key (c.spawnRelay name source automatic).relayTasks =
        AList.lookup key c.relayTasks := AList.lookup_insert_ne own
    simp only [relayed, relayAt, names]
    cases found : AList.lookup key c.relayTasks with
    | none => rfl
    | some seq =>
        have older : seq ≠ c.spawned := Nat.ne_of_lt (numbered key seq found)
        have kept : AList.lookup seq (c.spawnRelay name source automatic).tasks =
            AList.lookup seq (c.abortAt name).tasks := AList.lookup_insert_ne older
        rw [Option.bind_some, Option.bind_some, kept]
        exact (aborts_abortAt name c).sameTasks seq

theorem relayed_unsubscribe (c : Connection) (name key : String) :
    relayed (c.unsubscribe name) key = if key = name then none else relayed c key := by
  by_cases own : key = name
  · subst own
    rw [if_pos rfl]
    have gone : AList.lookup key (c.unsubscribe key).relayTasks = none := AList.lookup_erase _ _
    simp only [relayed, relayAt, gone]
    rfl
  · rw [if_neg own]
    exact relayed_congr (AList.lookup_erase_ne own) (aborts_abortAt name c).sameTasks

structure Quieter (c c' : Connection) : Prop where
  tenant : c'.authenticatedTenant = c.authenticatedTenant
  identity : c'.identity = c.identity
  relays : ∀ key r, relayed c' key = some r → relayed c key = some r
  names : ∀ key seq, AList.lookup key c'.relayTasks = some seq →
    AList.lookup key c.relayTasks = some seq
  spawned : c'.spawned = c.spawned

theorem Quieter.of_sameTasks {c c' : Connection} (tenant : c'.authenticatedTenant = c.authenticatedTenant)
    (identity : c'.identity = c.identity) (names : c'.relayTasks = c.relayTasks)
    (spawned : c'.spawned = c.spawned) (tasks : SameTasks c.tasks c'.tasks) : Quieter c c' where
  tenant := tenant
  identity := identity
  relays key r found := by
    rw [← found]
    exact (relayed_congr (by rw [names]) tasks).symm
  names key seq found := by rwa [names] at found
  spawned := spawned

theorem quieter_erase (c : Connection) (seq : Nat) :
    Quieter c { c with tasks := AList.erase seq c.tasks } where
  tenant := rfl
  identity := rfl
  relays key r found := by
    simp only [relayed, relayAt] at found ⊢
    cases name : AList.lookup key c.relayTasks with
    | none => simp [name] at found
    | some other =>
        simp only [name, Option.bind_some] at found ⊢
        by_cases same : other = seq
        · rw [same, AList.lookup_erase] at found
          cases found
        · rwa [AList.lookup_erase_ne same] at found
  names _ _ found := found
  spawned := rfl

theorem quieter_unsubscribe (c : Connection) (name : String) : Quieter c (c.unsubscribe name) where
  tenant := rfl
  identity := rfl
  relays key r found := by
    rw [relayed_unsubscribe] at found
    split at found
    · cases found
    · exact found
  names key seq found := by
    by_cases own : key = name
    · subst own
      rw [show AList.lookup key (c.unsubscribe key).relayTasks = none from AList.lookup_erase _ _]
        at found
      cases found
    · rwa [show AList.lookup key (c.unsubscribe name).relayTasks = AList.lookup key c.relayTasks from
        AList.lookup_erase_ne own] at found
  spawned := rfl

def Named (key : String) (source : Source) : Prop :=
  ∃ tenantId, source = .channel ⟨tenantId, key⟩ ∨ source = .wildcard ⟨tenantId, key⟩

/-- What one step makes of the relays: nothing new, a relay of the session's tenant, or an inbox. -/
inductive Relays (env : Env) (server : Server) (s : SessionId) : Event → Connection → Connection → Prop
  | quieter {e c c'} : Quieter c c' → Relays env server s e c c'
  | subscribed {e c key source} : Named key source → c.authenticatedTenant = some source.tenantId →
      Relays env server s e c (c.spawnRelay key source false)
  | accepted {bytes now c frame claims} : Admitted server s bytes now c frame →
      acceptedClaims env frame now server.ctx = some claims →
      Relays env server s (.inbound s bytes now) c (spawnRelay
        (unicastInboxChannel claims.sub) (.channel (inboxKey frame claims.sub)) true
        (identified frame.tenantId claims.sub c))

theorem relays_of_moved {env : Env} {server : Server} {s : SessionId} {e : Event} {c c' : Connection}
    (moved : Moved env server s e c c') : Relays env server s e c c' := by
  have unchanged : ∀ tasks : Table Nat RelayTask, SameTasks tasks tasks := fun _ _ => rfl
  cases moved with
  | still => exact .quieter (.of_sameTasks rfl rfl rfl rfl (unchanged _))
  | handled handles =>
      rename_i bytes now frame command tenant ctx
      have dispatched := handles.dispatched
      cases dispatched with
      | accepted claims opcode valid =>
          have accepted : acceptedClaims env frame now server.ctx = some claims :=
            acceptedClaims_eq_some.mpr ⟨opcode, valid⟩
          rw [returned_accepted accepted]
          simp only [react, opcode, decide_true]
          exact .accepted handles.toAdmitted accepted
      | rejected err opcode invalid =>
          have refused : acceptedClaims env frame now server.ctx = none := by
            simp only [charged] at invalid
            simp [acceptedClaims, opcode, invalid, Except.toOption]
          rw [returned_refused refused]
          exact .quieter (.of_sameTasks rfl rfl rfl rfl (aborts_shut _).sameTasks)
      | idle opcode =>
          rw [returned_eq opcode]
          exact .quieter (.of_sameTasks rfl rfl rfl rfl (unchanged _))
      | beat opcode =>
          rw [returned_eq (by rw [opcode]; decide)]
          exact .quieter (.of_sameTasks rfl rfl rfl rfl (unchanged _))
      | published key named owned =>
          rw [returned_eq (opcode_of_publishKey named)]
          exact .quieter (.of_sameTasks rfl rfl rfl rfl (unchanged _))
      | replayed frames router opcode owned exact found =>
          rw [returned_eq (by rw [opcode]; decide)]
          exact .quieter (.of_sameTasks rfl rfl rfl rfl (unchanged _))
      | unsubPattern opcode owned pattern =>
          rw [returned_eq (by rw [opcode]; decide)]
          exact .quieter (quieter_unsubscribe c _)
      | unsubExact opcode owned exact =>
          rw [returned_eq (by rw [opcode]; decide)]
          exact .quieter (quieter_unsubscribe c _)
      | pattern opcode owned pattern =>
          rw [returned_eq (by rw [opcode]; decide)]
          simp only [react, opcode]
          exact .subscribed ⟨frame.tenantId, Or.inr rfl⟩ owned
      | exact opcode owned exact =>
          rw [returned_eq (by rw [opcode]; decide)]
          simp only [react, opcode]
          exact .subscribed ⟨frame.tenantId, Or.inl rfl⟩ owned
  | received running _ _ =>
      exact .quieter (.of_sameTasks rfl rfl rfl rfl (sameTasks_insert running rfl rfl))
  | ended => exact .quieter (quieter_erase c _)
  | queued running _ _ _ =>
      exact .quieter (.of_sameTasks rfl rfl rfl rfl (sameTasks_insert running rfl rfl))
  | replayed => exact .quieter (.of_sameTasks rfl rfl rfl rfl (unchanged _))
  | wrote => exact .quieter (.of_sameTasks rfl rfl rfl rfl (unchanged _))
  | closed => exact .quieter (.of_sameTasks rfl rfl rfl rfl (aborts_shut c).sameTasks)

structure Wired (c : Connection) : Prop where
  numbered : Numbered c
  distinct : ∀ key key' seq, AList.lookup key c.relayTasks = some seq →
    AList.lookup key' c.relayTasks = some seq → key = key'
  running : c.isOpen = true → ∀ key seq task, AList.lookup key c.relayTasks = some seq →
    AList.lookup seq c.tasks = some task → task.aborted = false

theorem wired_new (transport : Transport) : Wired (Connection.new transport) where
  numbered key seq found := by cases found
  distinct key key' seq found := by cases found
  running isOpen key seq task found := by cases found

theorem Wired.lookup_abortAt {c : Connection} (wired : Wired c) {name key : String} {seq : Nat}
    (apart : key ≠ name) (named : AList.lookup key c.relayTasks = some seq) :
    AList.lookup seq (c.abortAt name).tasks = AList.lookup seq c.tasks := by
  unfold abortAt
  cases found : AList.lookup name c.relayTasks with
  | none => rfl
  | some other =>
      have differs : seq ≠ other := by
        rintro rfl
        exact apart (wired.distinct key name seq named found)
      exact Table.lookup_adjust_ne _ _ differs

theorem lookup_spawnRelay (c : Connection) (name : String) (source : Source) (automatic : Bool)
    (key : String) : AList.lookup key (c.spawnRelay name source automatic).relayTasks =
      if key = name then some c.spawned else AList.lookup key c.relayTasks := by
  by_cases own : key = name
  · subst own
    rw [if_pos rfl]
    exact AList.lookup_insert _
  · rw [if_neg own]
    exact AList.lookup_insert_ne own

theorem lookup_unsubscribe (c : Connection) (name key : String) :
    AList.lookup key (c.unsubscribe name).relayTasks =
      if key = name then none else AList.lookup key c.relayTasks := by
  by_cases own : key = name
  · subst own
    rw [if_pos rfl]
    exact AList.lookup_erase _ _
  · rw [if_neg own]
    exact AList.lookup_erase_ne own

theorem wired_spawnRelay {c : Connection} (wired : Wired c) (name : String) (source : Source)
    (automatic : Bool) : Wired (c.spawnRelay name source automatic) where
  numbered key seq found := by
    show seq < c.spawned + 1
    rw [lookup_spawnRelay] at found
    split at found
    · cases found
      exact Nat.lt_succ_self _
    · exact Nat.lt_succ_of_lt (wired.numbered key seq found)
  distinct key key' seq found found' := by
    rw [lookup_spawnRelay] at found found'
    split at found <;> split at found'
    · exact ‹key = name›.trans ‹key' = name›.symm
    · cases found
      exact absurd (wired.numbered key' _ found') (Nat.lt_irrefl _)
    · cases found'
      exact absurd (wired.numbered key _ found) (Nat.lt_irrefl _)
    · exact wired.distinct key key' seq found found'
  running isOpen key seq task found there := by
    rw [lookup_spawnRelay] at found
    split at found
    · cases found
      have last : AList.lookup c.spawned (c.spawnRelay name source automatic).tasks =
          some ⟨source, automatic, 0, none, false⟩ := AList.lookup_insert _
      rw [last, Option.some.injEq] at there
      rw [← there]
    · rename_i apart
      have older : seq ≠ c.spawned := Nat.ne_of_lt (wired.numbered key seq found)
      have kept : AList.lookup seq (c.spawnRelay name source automatic).tasks =
          AList.lookup seq c.tasks :=
        (AList.lookup_insert_ne older).trans (wired.lookup_abortAt apart found)
      rw [kept] at there
      exact wired.running isOpen key seq task found there

theorem wired_unsubscribe {c : Connection} (wired : Wired c) (name : String) :
    Wired (c.unsubscribe name) where
  numbered key seq found := by
    rw [lookup_unsubscribe] at found
    split at found
    · cases found
    · exact wired.numbered key seq found
  distinct key key' seq found found' := by
    rw [lookup_unsubscribe] at found found'
    split at found <;> split at found'
    · exact ‹key = name›.trans ‹key' = name›.symm
    · cases found
    · cases found'
    · exact wired.distinct key key' seq found found'
  running isOpen key seq task found there := by
    rw [lookup_unsubscribe] at found
    split at found
    · cases found
    · rename_i apart
      have kept : AList.lookup seq (c.unsubscribe name).tasks = AList.lookup seq c.tasks :=
        wired.lookup_abortAt apart found
      rw [kept] at there
      exact wired.running isOpen key seq task found there

theorem Wired.of_tasks {c c' : Connection} (wired : Wired c) (names : c'.relayTasks = c.relayTasks)
    (spawned : c'.spawned = c.spawned)
    (tasks : c'.isOpen = true → c.isOpen = true ∧ ∀ seq task, AList.lookup seq c'.tasks = some task →
      ∃ older, AList.lookup seq c.tasks = some older ∧ task.aborted = older.aborted) : Wired c' where
  numbered := by
    rw [Numbered, names, spawned]
    exact wired.numbered
  distinct := by
    rw [names]
    exact wired.distinct
  running isOpen key seq task found there := by
    rw [names] at found
    obtain ⟨wasOpen, kept⟩ := tasks isOpen
    obtain ⟨older, before, same⟩ := kept seq task there
    rw [same]
    exact wired.running wasOpen key seq older found before

theorem Wired.of_eq {c c' : Connection} (wired : Wired c) (names : c'.relayTasks = c.relayTasks)
    (spawned : c'.spawned = c.spawned) (isOpen : c'.isOpen = c.isOpen) (tasks : c'.tasks = c.tasks) :
    Wired c' :=
  wired.of_tasks names spawned fun nowOpen => ⟨isOpen ▸ nowOpen, fun _ task there =>
    ⟨task, tasks ▸ there, rfl⟩⟩

theorem wired_insert {c : Connection} (wired : Wired c) {seq : Nat} {task : RelayTask}
    (there : AList.lookup seq c.tasks = some task) (next : Nat) (inFlight : Option Message)
    (queue : List Queued) :
    Wired { c with
      tasks := AList.insert seq { task with next := next, inFlight := inFlight } c.tasks
      outQueue := queue } := by
  refine wired.of_tasks rfl rfl fun isOpen => ⟨isOpen, fun other found held => ?_⟩
  by_cases same : other = seq
  · subst same
    rw [AList.lookup_insert, Option.some.injEq] at held
    exact ⟨task, there, held ▸ rfl⟩
  · rw [AList.lookup_insert_ne same] at held
    exact ⟨found, held, rfl⟩

theorem wired_shut {c : Connection} (wired : Wired c) : Wired c.shut :=
  wired.of_tasks rfl rfl fun isOpen => by cases isOpen

theorem wired_of_moved {env : Env} {server : Server} {s : SessionId} {e : Event} {c c' : Connection}
    (wired : Wired c) (moved : Moved env server s e c c') : Wired c' := by
  cases moved with
  | still => exact wired
  | handled handles =>
      rename_i bytes now frame command tenant ctx
      have returned : Wired (returned env server s now c frame tenant) :=
        wired.of_eq rfl rfl rfl rfl
      cases command with
      | subscribed key source => exact wired_spawnRelay returned key source _
      | unsubscribed key => exact wired_unsubscribe returned key
      | replayed frames => exact wired.of_eq rfl rfl rfl rfl
      | closeAuthFailed => exact wired_shut (wired.of_eq rfl rfl rfl rfl)
      | none => exact wired.of_eq rfl rfl rfl rfl
  | received there _ _ => exact wired_insert wired there _ _ _
  | ended =>
      refine wired.of_tasks rfl rfl fun isOpen => ⟨isOpen, fun other found held => ?_⟩
      exact ⟨found, (Table.lookup_of_lookup_erase held).2, rfl⟩
  | queued there _ _ _ => exact wired_insert wired there _ _ _
  | replayed => exact wired.of_eq rfl rfl rfl rfl
  | wrote => exact wired.of_eq rfl rfl rfl rfl
  | closed => exact wired_shut wired

end Connection

def Obtains (source : Source) (rx : ReceiverId) (r r' : ChannelRouterService Message) : Prop :=
  ∀ other q, r'.sent other q = if other = source ∧ q = rx then some [] else r.sent other q

theorem UseCases.Dispatched.obtained {codec : TokenCodec} {redis : RedisStreams Message} {s : SessionId}
    {rx : ReceiverId} {tenant tenant' : Option TenantId} {frame : Frame} {now : Clock}
    {ctx ctx' : RealtimeContext} {command : FrameCommand}
    (done : Dispatched codec redis s rx tenant frame now ctx command tenant' ctx') :
    match command with
    | .subscribed _ source => ∃ r, Obtains source rx ctx.channelRouter r ∧
        r.journal = ctx.channelRouter.journal ∧ Broadcasts r ctx'.channelRouter
    | _ => Broadcasts ctx.channelRouter ctx'.channelRouter := by
  cases done with
  | idle => exact .refl _
  | rejected => exact .refl _
  | accepted claims => exact ⟨_, ctx.channelRouter.sent_attach _ _, rfl, .refl _⟩
  | beat => exact .refl _
  | pattern => exact ⟨_, ctx.channelRouter.sent_subscribeWildcard _ _ _, rfl, .refl _⟩
  | exact => exact ⟨_, ctx.channelRouter.sent_attach _ _, rfl, .publish _ _ _ _ _⟩
  | unsubPattern => exact .refl _
  | unsubExact => exact .publish _ _ _ _ _
  | published key =>
      show Broadcasts _ (RealtimeContext.publishAndFanout _ _ _ _ _).channelRouter
      rw [RealtimeContext.channelRouter_publishAndFanout]
      exact .publish _ _ _ _ _
  | replayed frames router _ _ _ found =>
      have same : router = (ctx.channelRouter.replay redis frame.tenantId (namedKey frame)
        (sinceSecs frame)).2 := (congrArg Prod.snd found).symm
      exact same ▸ .replay _ _ _ _ _

end RealtimePlatform.Backend
