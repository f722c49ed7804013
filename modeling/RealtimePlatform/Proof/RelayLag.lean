import RealtimePlatform.Backend.Cluster
import RealtimePlatform.Backend.Relays
import RealtimePlatform.Proof.Handling

namespace RealtimePlatform.Proof.RelayLag
open Library Backend Backend.Server Backend.UseCases Backend.Connection

/-- The message that a step of one relay task puts on the queue of its open session. -/
def forwarded (s : SessionId) (seq : Nat) (server : Server) : Event → Option Message
  | .relaySend q n =>
    if q = s ∧ n = seq then
      ((server.connections s).filter (·.isOpen)).bind fun c =>
        (AList.lookup seq c.tasks).bind (·.inFlight)
    else none
  | _ => none

/-- Every task that an open session names in `relay_tasks` runs, is not aborted, and holds a receiver
that each later publish on a matching channel reaches. -/
def Forwarding (server : Server) : Prop :=
  ∀ s c, server.connections s = some c → c.isOpen = true →
    ∀ key seq, AList.lookup key c.relayTasks = some seq →
      ∃ task log, AList.lookup seq c.tasks = some task ∧ task.aborted = false ∧
        Named key task.source ∧ server.ctx.channelRouter.sent task.source ⟨s, seq⟩ = some log ∧
        ∀ (channel : ChannelKey) (m : Message) (nowSecs : Nat), task.source.matches channel = true →
          (server.ctx.channelRouter.publish channel.tenantId channel m nowSecs).2.sent task.source
            ⟨s, seq⟩ = some (log ++ [m])

/-- A relay task that is named takes from its receiver only when the buffer still holds all that waits. -/
def KeepsUp (server : Server) : Event → Prop
  | .relayRecv s seq => ∀ c key task log, server.connections s = some c → c.isOpen = true →
      AList.lookup key c.relayTasks = some seq → AList.lookup seq c.tasks = some task →
      server.ctx.channelRouter.sent task.source ⟨s, seq⟩ = some log →
      log.length - task.next ≤ channelCapacity
  | _ => True

def Holds (r : ChannelRouterService Message) (put : List Message) (rx : ReceiverId) (task : RelayTask) :
    Prop :=
  ∃ log, r.sent task.source rx = some log ∧ task.next ≤ log.length ∧
    put ++ task.inFlight.toList = log.take task.next

section
variable {r r' : ChannelRouterService Message} {put : List Message} {rx q : ReceiverId}
  {task : RelayTask}

theorem Holds.broadcasts (holds : Holds r put rx task) (broadcasts : Broadcasts r r') :
    Holds r' put rx task := by
  obtain ⟨log, attached, within, taken⟩ := holds
  obtain ⟨new, appended⟩ := broadcasts.sent task.source rx
  rw [attached] at appended
  refine ⟨log ++ new, appended, ?_, ?_⟩
  · rw [List.length_append]
    exact Nat.le_add_right_of_le within
  · rw [List.take_append_of_le_length within]
    exact taken

theorem Holds.obtains (holds : Holds r put rx task) {source : Source} (obtains : Obtains source q r r')
    (apart : rx ≠ q) : Holds r' put rx task := by
  obtain ⟨log, attached, rest⟩ := holds
  refine ⟨log, ?_, rest⟩
  rw [obtains, if_neg fun same => apart same.2]
  exact attached

theorem Holds.detach (holds : Holds r put rx task) (source : Source) (apart : rx ≠ q) :
    Holds (r.detach source q) put rx task := by
  obtain ⟨log, attached, rest⟩ := holds
  refine ⟨log, ?_, rest⟩
  rw [r.sent_detach, if_neg fun same => apart same.2]
  exact attached

theorem holds_obtained {source : Source} (obtains : Obtains source rx r r') (automatic : Bool) :
    Holds r' [] rx ⟨source, automatic, 0, none, false⟩ := by
  refine ⟨[], ?_, Nat.le_refl 0, rfl⟩
  rw [obtains, if_pos ⟨rfl, rfl⟩]

theorem Holds.receive (holds : Holds r put rx task) (idle : task.inFlight = none) {m : Message}
    (got : r.receive task.source rx task.next = .message m) :
    Holds r put rx { task with next := task.next + 1, inFlight := some m } := by
  obtain ⟨log, attached, within, taken⟩ := holds
  rw [ChannelRouterService.receive_eq attached] at got
  split at got
  · cases got
  · cases waiting : log[task.next]? with
    | none =>
        rw [waiting] at got
        cases got
    | some next =>
        rw [waiting] at got
        cases got
        obtain ⟨room, value⟩ := List.getElem?_eq_some_iff.mp waiting
        refine ⟨log, attached, room, ?_⟩
        rw [idle, Option.toList_none, List.append_nil] at taken
        show put ++ [m] = log.take (task.next + 1)
        rw [taken, List.take_add_one, waiting, Option.toList_some]

theorem Holds.send (holds : Holds r put rx task) {m : Message} (holding : task.inFlight = some m) :
    Holds r (put ++ [m]) rx { task with inFlight := none } := by
  obtain ⟨log, attached, within, taken⟩ := holds
  refine ⟨log, attached, within, ?_⟩
  rw [holding] at taken
  show put ++ [m] ++ [] = log.take task.next
  rw [List.append_nil]
  exact taken

end

def Serves (r : ChannelRouterService Message) (put : Nat → List Message) (s : SessionId)
    (c : Connection) : Prop :=
  ∀ seq task, AList.lookup seq c.tasks = some task → seq < c.spawned ∧ Holds r (put seq) ⟨s, seq⟩ task

structure Accounted (put : SessionId → Nat → List Message) (server : Server) : Prop where
  serves : ∀ s c, server.connections s = some c → Serves server.ctx.channelRouter (put s) s c
  fresh : ∀ s seq, (∀ c, server.connections s = some c → c.spawned ≤ seq) → put s seq = []

section
variable {r r' : ChannelRouterService Message} {put : Nat → List Message} {s : SessionId}
  {c c' : Connection}

theorem Serves.aborts (serves : Serves r put s c) (aborts : Aborts c.tasks c'.tasks)
    (spawned : c'.spawned = c.spawned) : Serves r put s c' := by
  intro seq task' there
  obtain ⟨aborted, changed⟩ := aborts seq
  rw [changed] at there
  obtain ⟨task, running, rfl⟩ := Option.map_eq_some_iff.mp there
  rw [spawned]
  exact serves seq task running

theorem Serves.broadcasts (serves : Serves r put s c) (broadcasts : Broadcasts r r') :
    Serves r' put s c :=
  fun seq task running => (serves seq task running).imp_right (·.broadcasts broadcasts)

theorem Serves.spawnRelay (serves : Serves r put s c) {source : Source}
    (obtains : Obtains source ⟨s, c.spawned⟩ r r') (fresh : put c.spawned = []) (key : String)
    (automatic : Bool) : Serves r' put s (c.spawnRelay key source automatic) := by
  intro seq task there
  by_cases last : seq = c.spawned
  · subst last
    have spawned : AList.lookup c.spawned (c.spawnRelay key source automatic).tasks =
        some ⟨source, automatic, 0, none, false⟩ := AList.lookup_insert _
    rw [spawned, Option.some.injEq] at there
    subst there
    rw [fresh]
    exact ⟨Nat.lt_succ_self _, holds_obtained obtains automatic⟩
  · have older : AList.lookup seq (c.spawnRelay key source automatic).tasks =
        AList.lookup seq (c.abortAt key).tasks := AList.lookup_insert_ne last
    rw [older] at there
    have kept : Serves r put s (c.abortAt key) := serves.aborts (aborts_abortAt key c) rfl
    obtain ⟨below, holds⟩ := kept seq task there
    exact ⟨Nat.lt_succ_of_lt below, holds.obtains obtains fun same => last (ReceiverId.mk.inj same).2⟩

theorem Serves.drop (serves : Serves r put s c) (seq : Nat) (source : Source) :
    Serves (r.detach source ⟨s, seq⟩) put s { c with tasks := AList.erase seq c.tasks } := by
  intro other task there
  obtain ⟨apart, running⟩ := Table.lookup_of_lookup_erase there
  obtain ⟨below, holds⟩ := serves other task running
  exact ⟨below, holds.detach source fun same => apart (ReceiverId.mk.inj same).2⟩

theorem Serves.insert (serves : Serves r put s c) {put' : Nat → List Message} {seq : Nat}
    {task : RelayTask} (running : (AList.lookup seq c.tasks).isSome = true)
    (holds : Holds r (put' seq) ⟨s, seq⟩ task) (others : ∀ other, other ≠ seq → put' other = put other)
    (tasks : c'.tasks = AList.insert seq task c.tasks) (spawned : c'.spawned = c.spawned) :
    Serves r put' s c' := by
  intro other task' there
  rw [spawned]
  rw [tasks] at there
  by_cases same : other = seq
  · subst same
    rw [AList.lookup_insert, Option.some.injEq] at there
    obtain ⟨older, before⟩ := Option.isSome_iff_exists.mp running
    exact ⟨(serves other older before).1, there ▸ holds⟩
  · rw [AList.lookup_insert_ne same] at there
    rw [others other same]
    exact serves other task' there

end

section
variable {env : Env} {server server' : Server} {put put' : SessionId → Nat → List Message}

theorem accounted_set (accounted : Accounted put server) (ctx : RealtimeContext) {s : SessionId}
    {c : Connection}
    (others : ∀ q, q ≠ s → ∀ older seq task, Holds server.ctx.channelRouter older ⟨q, seq⟩ task →
      Holds ctx.channelRouter older ⟨q, seq⟩ task)
    (own : Serves ctx.channelRouter (put' s) s c) (same : ∀ q, q ≠ s → put' q = put q)
    (fresh : ∀ seq, c.spawned ≤ seq → put' s seq = []) :
    Accounted put' ((server.setCtx ctx).setConnection s c) where
  serves q c' found := by
    rw [connections_setConnection, setCtx_connections] at found
    split at found
    · cases found
      rename_i here
      exact here ▸ own
    · rename_i apart
      rw [same q apart]
      intro seq task running
      exact (accounted.serves q c' found seq task running).imp_right (others q apart _ seq task)
  fresh q seq unspawned := by
    by_cases here : q = s
    · subst here
      exact fresh seq (unspawned c ((connections_setConnection q q _ _).trans (if_pos rfl)))
    · rw [same q here]
      refine accounted.fresh q seq fun c' found => unspawned c' ?_
      rw [connections_setConnection, if_neg here]
      exact found

theorem accounted_broadcasts (accounted : Accounted put server)
    (connections : server'.connections = server.connections)
    (broadcasts : Broadcasts server.ctx.channelRouter server'.ctx.channelRouter) :
    Accounted put server' where
  serves s c found := by
    rw [connections] at found
    exact (accounted.serves s c found).broadcasts broadcasts
  fresh s seq unspawned := by
    rw [connections] at unspawned
    exact accounted.fresh s seq unspawned

theorem accounted_kept (accounted : Accounted put server) (ctx : RealtimeContext) {s : SessionId}
    {c c' : Connection} (there : server.connections s = some c)
    (broadcasts : Broadcasts server.ctx.channelRouter ctx.channelRouter)
    (own : Serves ctx.channelRouter (put s) s c') (spawned : c'.spawned = c.spawned) :
    Accounted put ((server.setCtx ctx).setConnection s c') := by
  refine accounted_set accounted _ (fun q _ older seq task holds => holds.broadcasts broadcasts) own
    (fun q _ => rfl) fun seq above => accounted.fresh s seq fun c₁ found => ?_
  obtain rfl := Option.some.inj (there.symm.trans found)
  rwa [spawned] at above

theorem accounted_dropTask (accounted : Accounted put server) {s : SessionId} {c : Connection}
    (seq : Nat) (task : RelayTask) (there : server.connections s = some c) :
    Accounted put (server.dropTask s seq task c) := by
  refine accounted_set accounted _ (fun q apart older n other holds => ?_)
    ((accounted.serves s c there).drop seq task.source) (fun q _ => rfl) fun n above => ?_
  · exact holds.detach task.source fun same => apart (ReceiverId.mk.inj same).1
  · refine accounted.fresh s n fun c₁ found => ?_
    obtain rfl := Option.some.inj (there.symm.trans found)
    exact above

theorem accounted_handled (accounted : Accounted put server) {s : SessionId} {bytes : List UInt8}
    {now : Clock} {c : Connection} {frame : Frame} {command : FrameCommand} {tenant : Option TenantId}
    {ctx : RealtimeContext} (handles : Handles env server s bytes now c frame command tenant ctx) :
    Accounted put ((server.setCtx (settled s now (returned env server s now c frame tenant) frame command
      ctx)).setConnection s (react frame command (returned env server s now c frame tenant))) := by
  have there : server.connections s = some c := (waiting_eq_some handles.ready).1
  have serves := accounted.serves s c there
  have obtained := handles.dispatched.obtained
  have settles := settled_broadcasts s now (returned env server s now c frame tenant) frame command ctx
  cases command with
  | subscribed key source =>
      obtain ⟨r, obtains, _, publishes⟩ := obtained
      have broadcasts := publishes.trans settles
      have fresh : ∀ seq, c.spawned ≤ seq → put s seq = [] := by
        intro seq above
        refine accounted.fresh s seq fun c₁ found => ?_
        obtain rfl := Option.some.inj (there.symm.trans found)
        exact above
      refine accounted_set accounted _ (fun q apart older seq task holds => ?_) ?_ (fun q _ => rfl) ?_
      · exact (holds.obtains obtains fun same => apart (ReceiverId.mk.inj same).1).broadcasts broadcasts
      · have spawns : Serves r (put s) s ((returned env server s now c frame tenant).spawnRelay key
            source (frame.opcode = .auth)) :=
          (serves.aborts (aborts_refl _) rfl).spawnRelay obtains (fresh _ (Nat.le_refl _)) key _
        exact spawns.broadcasts broadcasts
      · intro seq above
        exact fresh seq (Nat.le_of_succ_le above)
  | unsubscribed key =>
      have broadcasts := Broadcasts.trans obtained settles
      have own : Serves server.ctx.channelRouter (put s) s
          ((returned env server s now c frame tenant).unsubscribe key) :=
        serves.aborts (aborts_abortAt key _) rfl
      exact accounted_kept accounted _ there broadcasts (own.broadcasts broadcasts) rfl
  | replayed frames =>
      have broadcasts := Broadcasts.trans obtained settles
      exact accounted_kept accounted _ there broadcasts
        ((serves.aborts (aborts_refl _) rfl).broadcasts broadcasts) rfl
  | closeAuthFailed =>
      have broadcasts := Broadcasts.trans obtained settles
      exact accounted_kept accounted _ there broadcasts
        ((serves.aborts (aborts_shut (returned env server s now c frame tenant)) rfl).broadcasts
          broadcasts) rfl
  | none =>
      have broadcasts := Broadcasts.trans obtained settles
      exact accounted_kept accounted _ there broadcasts
        ((serves.aborts (aborts_refl _) rfl).broadcasts broadcasts) rfl

theorem forwarded_queued {s : SessionId} {seq : Nat} {c : Connection} {task : RelayTask} {m : Message}
    (there : server.connections s = some c) (isOpen : c.isOpen = true)
    (running : AList.lookup seq c.tasks = some task) (holding : task.inFlight = some m)
    (q : SessionId) (n : Nat) : forwarded q n server (.relaySend s seq) =
      if s = q ∧ seq = n then some m else none := by
  simp only [forwarded]
  split
  · rename_i same
    obtain ⟨rfl, rfl⟩ := same
    rw [there, Option.filter_some, if_pos isOpen, Option.bind_some, running, Option.bind_some, holding]
  · rfl

theorem forwarded_orphaned {s : SessionId} {seq : Nat} {c : Connection}
    (there : server.connections s = some c) (shut : c.isOpen = false) (q : SessionId) (n : Nat) :
    forwarded q n server (.relaySend s seq) = none := by
  simp only [forwarded]
  split
  · rename_i same
    obtain ⟨rfl, rfl⟩ := same
    simp [there, shut]
  · rfl

theorem accounted_step {e : Event} (accounted : Accounted put server)
    (taken : step env server e = some server') :
    Accounted (fun s seq => put s seq ++ (forwarded s seq server e).toList) server' := by
  -- Only a send to an open session puts anything on a queue.
  have quiet : (∀ s seq, forwarded s seq server e = none) →
      (fun s seq => put s seq ++ (forwarded s seq server e).toList) = put := by
    intro silent
    funext s seq
    rw [silent, Option.toList_none, List.append_nil]
  cases step_cases taken with
  | connected fresh =>
      rw [quiet fun _ _ => rfl]
      refine accounted_set accounted _ (fun q _ older seq task holds => holds) ?_ (fun q _ => rfl) ?_
      · intro seq task running
        cases running
      · intro seq _
        refine accounted.fresh _ seq fun c found => ?_
        rw [fresh] at found
        cases found
  | unparsed =>
      rw [quiet fun _ _ => rfl]
      exact accounted
  | limited =>
      rw [quiet fun _ _ => rfl]
      exact accounted_broadcasts accounted rfl (.refl _)
  | handled handles =>
      rw [quiet fun _ _ => rfl]
      exact accounted_handled accounted handles
  | received there running idle got =>
      rw [quiet fun _ _ => rfl]
      have serves := accounted.serves _ _ there
      have holds := (serves _ _ running).2.receive idle got
      exact accounted_kept accounted server.ctx there (.refl _)
        (serves.insert (Option.isSome_of_eq_some running) holds (fun _ _ => rfl) rfl rfl) rfl
  | ended there =>
      rw [quiet fun _ _ => rfl]
      exact accounted_dropTask accounted _ _ there
  | queued there running holding isOpen =>
      rename_i s seq c task m room
      have marks := forwarded_queued there isOpen running holding
      have serves := accounted.serves s c there
      have put' : put s seq ++ (forwarded s seq server (.relaySend s seq)).toList = put s seq ++ [m] := by
        rw [marks, if_pos ⟨rfl, rfl⟩, Option.toList_some]
      refine accounted_set accounted server.ctx (fun q _ older n other holds => holds) ?_ ?_ ?_
      · refine serves.insert (Option.isSome_of_eq_some running) ?_ ?_ rfl rfl
        · show Holds _ (put s seq ++ (forwarded s seq server (.relaySend s seq)).toList) _ _
          rw [put']
          exact (serves seq task running).2.send holding
        · intro n apart
          show put s n ++ (forwarded s n server (.relaySend s seq)).toList = put s n
          rw [marks, if_neg fun same => apart same.2.symm, Option.toList_none, List.append_nil]
      · intro q apart
        funext n
        rw [marks, if_neg fun same => apart same.1.symm, Option.toList_none, List.append_nil]
      · intro n above
        have below : seq < c.spawned := (serves seq task running).1
        have unspawned : put s n = [] := by
          refine accounted.fresh s n fun c₁ found => ?_
          obtain rfl := Option.some.inj (there.symm.trans found)
          exact above
        have apart : seq ≠ n := by
          rintro rfl
          exact absurd below (Nat.not_lt.mpr above)
        rw [marks, if_neg fun same => apart same.2, unspawned]
        rfl
  | orphaned there running shut =>
      rw [quiet (forwarded_orphaned there shut)]
      exact accounted_dropTask accounted _ _ there
  | replayed there =>
      rw [quiet fun _ _ => rfl]
      exact accounted_kept accounted server.ctx there (.refl _)
        ((accounted.serves _ _ there).aborts (aborts_refl _) rfl) rfl
  | wrote ready =>
      rw [quiet fun _ _ => rfl]
      have there := (waiting_eq_some ready).1
      exact accounted_kept accounted server.ctx there (.refl _)
        ((accounted.serves _ _ there).aborts (aborts_refl _) rfl) rfl
  | closed ready =>
      rename_i s now c
      rw [quiet fun _ _ => rfl]
      have there := (waiting_eq_some ready).1
      have broadcasts := leave_broadcasts s c now server.ctx
      exact accounted_kept accounted _ there broadcasts
        (((accounted.serves _ _ there).aborts (aborts_shut _) rfl).broadcasts broadcasts) rfl
  | dropped there =>
      rw [quiet fun _ _ => rfl]
      exact accounted_dropTask accounted _ _ there
  | swept =>
      rw [quiet fun _ _ => rfl]
      exact accounted_broadcasts accounted rfl (RealtimeContext.sweep_broadcasts _ _ server.ctx)
  | requested =>
      rw [quiet fun _ _ => rfl]
      exact accounted_broadcasts accounted rfl (httpStep_broadcasts env _ _ server.ctx)
  | administered =>
      rename_i op
      rw [quiet fun _ _ => rfl]
      cases op <;> exact accounted_broadcasts accounted rfl (.refl _)
  | sent =>
      rw [quiet fun _ _ => rfl]
      exact accounted_broadcasts accounted rfl (.refl _)
  | passed =>
      rw [quiet fun _ _ => rfl]
      exact accounted
  | reinjected =>
      rw [quiet fun _ _ => rfl]
      exact accounted_broadcasts accounted rfl (.publish _ _ _ _ _)
  | persisted port =>
      rw [quiet fun _ _ => rfl]
      exact accounted_broadcasts accounted rfl (.drained port)
  | added =>
      rw [quiet fun _ _ => rfl]
      exact accounted_broadcasts accounted rfl (.refl _)

end

def Manned (c : Connection) : Prop :=
  c.isOpen = true → ∀ key seq, AList.lookup key c.relayTasks = some seq →
    (AList.lookup seq c.tasks).isSome = true

structure Sound (server : Server) : Prop where
  wired : ∀ s c, server.connections s = some c → Wired c
  named : ∀ s c, server.connections s = some c → ∀ key source automatic,
    relayed c key = some (source, automatic) → Named key source
  accounted : ∃ put, Accounted put server

section
variable {env : Env} {server server' : Server} {e : Event}

theorem sound_step (server : Server) (e : Event) (server' : Server) (sound : Sound server)
    (taken : step env server e = some server') : Sound server' where
  wired s c' found := by
    rcases step_moved taken found with ⟨transport, _, _, rfl⟩ | ⟨c, there, moved⟩
    · exact wired_new transport
    · exact wired_of_moved (sound.wired s c there) moved
  named s c' found key source automatic entry := by
    rcases step_moved taken found with ⟨transport, _, _, rfl⟩ | ⟨c, there, moved⟩
    · cases entry
    · have before := sound.named s c there key
      have numbered := (sound.wired s c there).numbered
      cases relays_of_moved moved with
      | quieter less => exact before source automatic (less.relays key _ entry)
      | subscribed named owned =>
          rw [relayed_spawnRelay numbered] at entry
          split at entry
          · rename_i own
            cases entry
            exact own ▸ named
          · exact before source automatic entry
      | accepted admitted accepted =>
          rename_i bytes now frame claims
          have renamed : Numbered (identified frame.tenantId claims.sub c) := numbered
          rw [relayed_spawnRelay renamed] at entry
          split at entry
          · rename_i own
            cases entry
            exact own ▸ ⟨frame.tenantId, Or.inl rfl⟩
          · exact before source automatic entry
  accounted := by
    obtain ⟨put, accounted⟩ := sound.accounted
    exact ⟨_, accounted_step accounted taken⟩

theorem forwarding_iff_manned (sound : Sound server) :
    Forwarding server ↔ ∀ s c, server.connections s = some c → Manned c := by
  constructor
  · intro forwarding s c there isOpen key seq named
    obtain ⟨task, log, running, _⟩ := forwarding s c there isOpen key seq named
    exact Option.isSome_of_eq_some running
  · intro manned s c there isOpen key seq named
    obtain ⟨task, running⟩ := Option.isSome_iff_exists.mp (manned s c there isOpen key seq named)
    obtain ⟨put, accounted⟩ := sound.accounted
    obtain ⟨log, attached, _⟩ := (accounted.serves s c there seq task running).2
    have relaying : c.relayAt key = some task := Option.bind_eq_some_iff.mpr ⟨seq, named, running⟩
    refine ⟨task, log, running, (sound.wired s c there).running isOpen key seq task named running,
      sound.named s c there key task.source task.automatic (relayed_eq_some relaying), attached, ?_⟩
    intro channel m nowSecs hit
    rw [ChannelRouterService.sent_publish, if_pos ⟨rfl, hit⟩, attached, Option.map_some]

theorem Manned.of_tasks {c c' : Connection} (manned : Manned c)
    (isOpen : c'.isOpen = true → c.isOpen = true) (names : c'.relayTasks = c.relayTasks)
    (tasks : ∀ seq, (AList.lookup seq c.tasks).isSome = true → (AList.lookup seq c'.tasks).isSome = true) :
    Manned c' := by
  intro nowOpen key seq named
  rw [names] at named
  exact tasks seq (manned (isOpen nowOpen) key seq named)

theorem isSome_insert {tasks : Table Nat RelayTask} {seq other : Nat} (task : RelayTask)
    (there : (AList.lookup other tasks).isSome = true) :
    (AList.lookup other (AList.insert seq task tasks)).isSome = true := by
  by_cases same : other = seq
  · subst same
    rw [AList.lookup_insert]
    rfl
  · rwa [AList.lookup_insert_ne same]

theorem isSome_abortAt {c : Connection} {seq : Nat} (key : String)
    (there : (AList.lookup seq c.tasks).isSome = true) :
    (AList.lookup seq (c.abortAt key).tasks).isSome = true := by
  obtain ⟨aborted, changed⟩ := aborts_abortAt key c seq
  rw [changed, Option.isSome_map]
  exact there

theorem manned_react {c : Connection} (manned : Manned c) (frame : Frame) (command : FrameCommand) :
    Manned (react frame command c) := by
  cases command with
  | subscribed key source =>
      intro isOpen name seq named
      rw [show react frame (.subscribed key source) c = c.spawnRelay key source (frame.opcode = .auth)
        from rfl] at named ⊢
      rw [lookup_spawnRelay] at named
      split at named
      · cases named
        exact Option.isSome_of_eq_some (AList.lookup_insert _)
      · exact isSome_insert _ (isSome_abortAt key (manned isOpen name seq named))
  | unsubscribed key =>
      intro isOpen name seq named
      rw [show react frame (.unsubscribed key) c = c.unsubscribe key from rfl] at named ⊢
      rw [lookup_unsubscribe] at named
      split at named
      · cases named
      · exact isSome_abortAt key (manned isOpen name seq named)
  | closeAuthFailed =>
      intro isOpen
      cases isOpen
  | _ => exact manned

theorem manned_dropTask {c : Connection} {seq : Nat} (manned : Manned c)
    (unnamed : c.isOpen = true → ∀ key, AList.lookup key c.relayTasks ≠ some seq) :
    Manned { c with tasks := AList.erase seq c.tasks } := by
  intro isOpen key other named
  have apart : other ≠ seq := by
    rintro rfl
    exact unnamed isOpen key named
  rw [AList.lookup_erase_ne apart]
  exact manned isOpen key other named

theorem manned_step (sound : Sound server) (manned : ∀ s c, server.connections s = some c → Manned c)
    (keepsUp : KeepsUp server e) (taken : step env server e = some server') (q : SessionId)
    (c' : Connection) (found : server'.connections q = some c') : Manned c' := by
  have set : ∀ (ctx : RealtimeContext) (s : SessionId) (c₁ : Connection), Manned c₁ →
      ((server.setCtx ctx).setConnection s c₁).connections q = some c' → Manned c' := by
    intro ctx s c₁ own there
    rw [connections_setConnection] at there
    split at there
    · exact Option.some.inj there ▸ own
    · exact manned q c' there
  cases step_cases taken with
  | connected =>
      refine set _ _ _ (fun isOpen key seq named => ?_) found
      cases named
  | handled handles =>
      have there := (waiting_eq_some handles.ready).1
      refine set _ _ _ (manned_react ?_ _ _) found
      exact (manned _ _ there).of_tasks id rfl fun _ => id
  | received there =>
      refine set server.ctx _ _ ?_ found
      exact (manned _ _ there).of_tasks id rfl fun _ => isSome_insert _
  | queued there =>
      refine set server.ctx _ _ ?_ found
      exact (manned _ _ there).of_tasks id rfl fun _ => isSome_insert _
  | ended there running finished =>
      refine set _ _ _ (manned_dropTask (manned _ _ there) fun isOpen key named => ?_) found
      obtain ⟨put, accounted⟩ := sound.accounted
      obtain ⟨log, attached, _⟩ := (accounted.serves _ _ there _ _ running).2
      have near := keepsUp _ key _ log there isOpen named running attached
      rw [ChannelRouterService.isOver_receive attached near] at finished
      cases finished
  | orphaned there running shut =>
      refine set _ _ _ (manned_dropTask (manned _ _ there) fun isOpen => ?_) found
      rw [shut] at isOpen
      cases isOpen
  | dropped there running aborted =>
      refine set _ _ _ (manned_dropTask (manned _ _ there) fun isOpen key named => ?_) found
      have current := (sound.wired _ _ there).running isOpen key _ _ named running
      rw [aborted] at current
      cases current
  | replayed there =>
      refine set server.ctx _ _ ?_ found
      exact (manned _ _ there).of_tasks id rfl fun _ => id
  | wrote ready =>
      refine set server.ctx _ _ ?_ found
      exact (manned _ _ (waiting_eq_some ready).1).of_tasks id rfl fun _ => id
  | closed ready =>
      refine set _ _ _ (fun isOpen => ?_) found
      cases isOpen
  | _ => exact manned q c' found

theorem keepsUp_of_manned (manned : ∀ s c, server'.connections s = some c → Manned c)
    (taken : step env server e = some server') : KeepsUp server e := by
  cases e with
  | relayRecv s seq =>
      intro c key task log there isOpen named running attached
      by_contra behind
      have finished : server.ctx.channelRouter.receive task.source ⟨s, seq⟩ task.next = .lagged := by
        rw [ChannelRouterService.receive_eq attached, if_pos (Nat.not_le.mp behind)]
      cases step_cases taken with
      | received there' running' free got =>
          obtain rfl := Option.some.inj (there.symm.trans there')
          obtain rfl := Option.some.inj (running.symm.trans running')
          rw [finished] at got
          cases got
      | ended there' running' =>
          obtain rfl := Option.some.inj (there.symm.trans there')
          have left := manned s _ (connections_dropTask s seq _ c server) isOpen key seq named
          rw [AList.lookup_erase] at left
          cases left
  | _ => trivial

/-- What a task has still to put on the queue. -/
def pending (task : RelayTask) (log : List Message) : List Message :=
  task.inFlight.toList ++ log.drop task.next

theorem Holds.pending {r : ChannelRouterService Message} {put : List Message} {rx : ReceiverId}
    {task : RelayTask} (holds : Holds r put rx task) :
    ∃ log, r.sent task.source rx = some log ∧ put ++ pending task log = log := by
  obtain ⟨log, attached, _, taken⟩ := holds
  refine ⟨log, attached, ?_⟩
  rw [RelayLag.pending, ← List.append_assoc, taken, List.take_append_drop]

section
variable {s : SessionId} {seq : Nat} {c : Connection} {task : RelayTask} {m : Message}

def sentBy (seq : Nat) (task : RelayTask) (m : Message) (c : Connection) : Connection :=
  { c with
    tasks := AList.insert seq { task with inFlight := none } c.tasks
    outQueue := c.outQueue ++ [⟨m, .relay task.source⟩] }

def takenBy (seq : Nat) (task : RelayTask) (m : Message) (c : Connection) : Connection :=
  { c with
    tasks := AList.insert seq { task with next := task.next + 1, inFlight := some m } c.tasks }

theorem step_relaySend (env : Env) (there : server.connections s = some c)
    (running : AList.lookup seq c.tasks = some task) (holding : task.inFlight = some m)
    (isOpen : c.isOpen = true) (room : c.outQueue.length < relayBuffer) :
    step env server (.relaySend s seq) = some (server.setConnection s (sentBy seq task m c)) := by
  have stays : ¬ (!c.isOpen) = true := by simp [isOpen]
  show server.relaySendStep s seq = _
  unfold relaySendStep
  rw [there, Option.bind_some, running, Option.bind_some, holding, Option.bind_some, if_neg stays,
    if_pos room]
  rfl

theorem step_relayRecv (env : Env) (there : server.connections s = some c)
    (running : AList.lookup seq c.tasks = some task) (idle : task.inFlight = none)
    (got : server.ctx.channelRouter.receive task.source ⟨s, seq⟩ task.next = .message m) :
    step env server (.relayRecv s seq) = some (server.setConnection s (takenBy seq task m c)) := by
  show server.relayRecvStep s seq = _
  simp only [relayRecvStep, there, Option.bind_some, running, idle, Option.isSome_none,
    Bool.false_eq_true, if_false, got]
  rfl

theorem run_forwarded (env : Env) (there : server.connections s = some c) (isOpen : c.isOpen = true)
    (running : AList.lookup seq c.tasks = some task) (idle : task.inFlight = none)
    (empty : c.outQueue.length < relayBuffer)
    (got : server.ctx.channelRouter.receive task.source ⟨s, seq⟩ task.next = .message m) :
    (step env).run server [.relayRecv s seq, .relaySend s seq] =
      some (server.setConnection s (sentBy seq { task with next := task.next + 1, inFlight := some m } m
        (takenBy seq task m c))) := by
  have taken := step_relayRecv env there running idle got
  have there' : (server.setConnection s (takenBy seq task m c)).connections s =
      some (takenBy seq task m c) := connections_setConnection_self _ _ _
  have sends := step_relaySend env there' (AList.lookup_insert _) rfl isOpen empty
  rw [setConnection_setConnection] at sends
  exact Step.run_cons_iff.mpr ⟨_, taken, Step.run_cons_iff.mpr ⟨_, sends, rfl⟩⟩

theorem receive_first {r : ChannelRouterService Message} {source : Source} {rx : ReceiverId} {next : Nat}
    {m : Message} (start : next = 0) (sent : r.sent source rx = some [m]) :
    r.receive source rx next = .message m := by
  subst start
  have near : [m].length - 0 ≤ channelCapacity := (by decide : 1 ≤ channelCapacity)
  exact ChannelRouterService.receive_of_sent sent near rfl

theorem forwards_next (env : Env) (there : server.connections s = some c) (isOpen : c.isOpen = true)
    (running : AList.lookup seq c.tasks = some task) {log rest : List Message}
    (attached : server.ctx.channelRouter.sent task.source ⟨s, seq⟩ = some log)
    (near : log.length - task.next ≤ channelCapacity) (waiting : pending task log = m :: rest)
    (room : c.outQueue.length < relayBuffer) :
    ∃ es server' c', (∀ e ∈ es, e = .relayRecv s seq ∨ e = .relaySend s seq) ∧
      (step env).run server es = some server' ∧ server'.connections s = some c' ∧
      c'.outQueue = c.outQueue ++ [⟨m, .relay task.source⟩] := by
  cases holding : task.inFlight with
  | some held =>
      rw [pending, holding] at waiting
      cases waiting
      exact ⟨[.relaySend s seq], _, sentBy seq task m c, by simp, Step.run_cons_iff.mpr
        ⟨_, step_relaySend env there running holding isOpen room, rfl⟩,
        connections_setConnection_self _ _ _, rfl⟩
  | none =>
      rw [pending, holding, Option.toList_none, List.nil_append] at waiting
      have first : log[task.next]? = some m := by
        rw [← List.head?_drop, waiting, List.head?_cons]
      have got := ChannelRouterService.receive_of_sent attached near first
      have taken := step_relayRecv env there running holding got
      have there' : (server.setConnection s (takenBy seq task m c)).connections s =
          some (takenBy seq task m c) := connections_setConnection_self _ _ _
      have running' : AList.lookup seq (takenBy seq task m c).tasks =
          some { task with next := task.next + 1, inFlight := some m } := AList.lookup_insert _
      have sends := step_relaySend env there' running' rfl isOpen room
      exact ⟨[.relayRecv s seq, .relaySend s seq], _,
        sentBy seq { task with next := task.next + 1, inFlight := some m } m (takenBy seq task m c),
        by simp, Step.run_cons_iff.mpr ⟨_, taken, Step.run_cons_iff.mpr ⟨_, sends, rfl⟩⟩,
        connections_setConnection_self _ _ _, rfl⟩

end

end

theorem accounted_run {env : Env} {config : RateLimitConfig} {timeout : Nat} {hasRedis hasWebPush : Bool}
    {es : List Event} {server : Server}
    (reached : (step env).run (start config timeout hasRedis hasWebPush) es = some server) :
    Accounted (fun s seq => (step env).observed (forwarded s seq)
      (start config timeout hasRedis hasWebPush) es) server := by
  refine Step.run_induction (fun ds t => Accounted (fun s seq => (step env).observed (forwarded s seq)
    (start config timeout hasRedis hasWebPush) ds) t) ?_ (fun ds t e u before held taken => ?_) reached
  · exact ⟨fun s c there => (by cases there), fun _ _ _ => rfl⟩
  · have next := accounted_step held taken
    have appended : ∀ s seq, (step env).observed (forwarded s seq)
        (start config timeout hasRedis hasWebPush) (ds ++ [e]) = (step env).observed (forwarded s seq)
          (start config timeout hasRedis hasWebPush) ds ++ (forwarded s seq t e).toList := by
      intro s seq
      rw [Step.observed_append _ before]
      simp [Step.observed, taken]
    simp only [appended]
    exact next

theorem sound_start (env : Env) (config : RateLimitConfig) (timeout : Nat) (hasRedis hasWebPush : Bool) :
    Sound (start config timeout hasRedis hasWebPush) := by
  refine ⟨fun s c there => ?_, fun s c there => ?_, _, accounted_run (Step.run_nil (step env) _)⟩
  all_goals cases there

theorem sound_run {env : Env} {config : RateLimitConfig} {timeout : Nat} {hasRedis hasWebPush : Bool}
    {es : List Event} {server : Server}
    (reached : (step env).run (start config timeout hasRedis hasWebPush) es = some server) : Sound server :=
  Step.run_invariant sound_step reached (sound_start env config timeout hasRedis hasWebPush)

/-- In a run the named tasks of the open sessions all go on forwarding exactly when none of them takes
from its receiver too late. As long as a task runs, whatever was sent to its receiver is on the queue or
waits, in that order, and what waits can be put there. A SUB of a pattern is a single step here. -/
theorem survives_lag_iff (env : Env) (config : RateLimitConfig) (timeout : Nat)
    (hasRedis hasWebPush : Bool) {es : List Event} {server : Server}
    (reached : (step env).run (start config timeout hasRedis hasWebPush) es = some server) :
    ((step env).Meets KeepsUp (start config timeout hasRedis hasWebPush) es ↔
      (step env).Throughout Forwarding (start config timeout hasRedis hasWebPush) es) ∧
    ∀ s c seq task, server.connections s = some c → AList.lookup seq c.tasks = some task →
      ∃ log, server.ctx.channelRouter.sent task.source ⟨s, seq⟩ = some log ∧
        (step env).observed (forwarded s seq) (start config timeout hasRedis hasWebPush) es ++
          pending task log = log ∧
        (c.isOpen = true → log.length - task.next ≤ channelCapacity →
          c.outQueue.length < relayBuffer → ∀ m rest, pending task log = m :: rest →
            ∃ ds server' c', (∀ d ∈ ds, d = .relayRecv s seq ∨ d = .relaySend s seq) ∧
              (step env).run server ds = some server' ∧ server'.connections s = some c' ∧
              c'.outQueue = c.outQueue ++ [⟨m, .relay task.source⟩]) := by
  have accounted := accounted_run reached
  constructor
  · have sound : Sound (start config timeout hasRedis hasWebPush) := sound_start env ..
    have forwarding : Forwarding (start config timeout hasRedis hasWebPush) := fun s c there => by
      cases there
    refine Step.meets_iff_throughout sound_step (fun t e u sound forwarding taken => ?_) reached sound
      forwarding
    have manned := (forwarding_iff_manned sound).mp forwarding
    have after := forwarding_iff_manned (sound_step t e u sound taken)
    exact ⟨fun keepsUp => after.mpr (manned_step sound manned keepsUp taken),
      fun held => keepsUp_of_manned (after.mp held) taken⟩
  · intro s c seq task there running
    obtain ⟨log, attached, account⟩ := (accounted.serves s c there seq task running).2.pending
    refine ⟨log, attached, account, fun isOpen near room m rest waiting => ?_⟩
    exact forwards_next env there isOpen running attached near waiting room

section Sample
open SampleToken Sample

theorem forwarding_inRoom :
    (step env).Throughout Forwarding (started false) (signInEvents ++ [subRoom]) := by
  have reached := Step.run_concat_iff.mpr ⟨_, run_signedIn false, step_inRoom⟩
  refine (survives_lag_iff env {} 30000000000 false false reached).1.mp ?_
  exact Step.meets_of_forall (by simp [signInEvents, subRoom, KeepsUp]) _

theorem run_reinjected {env : Env} {payload : List UInt8} {frame : Frame}
    (decoded : remoteFrame env.instanceId payload = some frame) (now : Clock) {source : Source}
    (hit : source.matches (remoteKey frame) = true) {rx : ReceiverId} (count : Nat) {server : Server}
    (linked : server.ctx.pushFallback.cluster.isSome = true) {log : List Message}
    (attached : server.ctx.channelRouter.sent source rx = some log) :
    ∃ server' log', (step env).run server (List.replicate count (.clusterReceive payload now)) =
        some server' ∧ server'.connections = server.connections ∧
      server'.ctx.channelRouter.sent source rx = some log' ∧ log'.length = log.length + count := by
  induction count generalizing server log with
  | zero => exact ⟨server, log, rfl, rfl, attached, rfl⟩
  | succ count ih =>
      have taken : step env server (.clusterReceive payload now) =
          some (server.setCtx (reinject frame now server.ctx)) := by
        show server.clusterReceiveStep env payload now = _
        unfold clusterReceiveStep
        rw [if_pos linked, decoded]
      have reached : (server.setCtx (reinject frame now server.ctx)).ctx.channelRouter.sent source rx =
          some (log ++ [⟨frame.raw, remoteKey frame⟩]) := by
        show (server.ctx.channelRouter.publish frame.tenantId (remoteKey frame) _ now.unixSecs).2.sent
          source rx = _
        rw [ChannelRouterService.sent_publish, if_pos ⟨rfl, hit⟩, attached, Option.map_some]
      have still : (server.setCtx (reinject frame now server.ctx)).ctx.pushFallback.cluster.isSome =
          true := linked
      obtain ⟨server', log', run, same, sent, length⟩ := ih still reached
      refine ⟨server', log', Step.run_cons_iff.mpr ⟨_, taken, run⟩, same, sent, ?_⟩
      rw [length, List.length_append, List.length_singleton]
      omega

def remoteRoom : FrameBuilder := { opcode := .publish, tenantId := tenantOne, channelId := "room" }

def remoteParsed : Frame := remoteRoom.frame (by decide) (by decide)

def remotePayload : List UInt8 := encodeEnvelope sessionTwo remoteRoom.build

theorem decoded_remoteRoom : remoteFrame env.instanceId remotePayload = some remoteParsed := by
  rw [remotePayload, remoteFrame_encodeEnvelope, if_neg (by decide),
    FrameBuilder.parse_build (b := remoteRoom) (by decide) (by decide)]
  rfl

def roomSubscribed : Server := subscribed sessionOne aliceConnection roomParsed epoch (signedIn true)

def roomConnection : Connection :=
  aliceConnection.spawnRelay roomParsed.channelId (.channel (namedKey roomParsed)) false

theorem run_flooded : ∃ server log, (step env).run (started true)
      (signInEvents ++ [subRoom] ++ List.replicate 257 (.clusterReceive remotePayload epoch)) =
        some server ∧ server.connections sessionOne = some roomConnection ∧
      server.ctx.channelRouter.sent (.channel (namedKey roomParsed)) ⟨sessionOne, 1⟩ = some log ∧
      log.length = 257 := by
  have joins : step env (signedIn true) subRoom = some roomSubscribed :=
    step_subscribe _ _ (by decide) (waiting_signedIn true) rfl (by decide) (allowed_signedIn true)
  have attached : roomSubscribed.ctx.channelRouter.sent (.channel (namedKey roomParsed))
      ⟨sessionOne, 1⟩ = some [] := sent_subscribed sessionOne aliceConnection roomParsed epoch _
  have hit : (Source.channel (namedKey roomParsed)).matches (remoteKey remoteParsed) = true := by
    decide
  have linked : roomSubscribed.ctx.pushFallback.cluster.isSome = true := rfl
  obtain ⟨server, log, flooded, same, sent, length⟩ :=
    run_reinjected decoded_remoteRoom epoch hit 257 linked attached
  refine ⟨server, log, ?_, ?_, sent, length⟩
  · exact Step.run_append_iff.mpr
      ⟨_, Step.run_concat_iff.mpr ⟨_, run_signedIn true, joins⟩, flooded⟩
  · rw [same]
    exact connections_setConnection_self _ _ _

theorem not_forwarding_flooded :
    ¬ ∀ (env : Env) (config : RateLimitConfig) (timeout : Nat) (hasRedis hasWebPush : Bool)
      (es : List Event) (server : Server),
      (step env).run (start config timeout hasRedis hasWebPush) es = some server →
        Forwarding server := by
  intro claim
  obtain ⟨server, log, flooded, there, attached, length⟩ := run_flooded
  have behind : server.ctx.channelRouter.receive (.channel (namedKey roomParsed)) ⟨sessionOne, 1⟩ 0 =
      .lagged := by
    rw [ChannelRouterService.receive_eq attached, length]
    rfl
  have taken : step env server (.relayRecv sessionOne 1) = some (server.dropTask sessionOne 1
      ⟨.channel (namedKey roomParsed), false, 0, none, false⟩ roomConnection) := by
    show server.relayRecvStep sessionOne 1 = _
    unfold relayRecvStep
    rw [there, Option.bind_some, show AList.lookup 1 roomConnection.tasks =
      some ⟨.channel (namedKey roomParsed), false, 0, none, false⟩ from rfl, Option.bind_some]
    simp only [Option.isSome_none, Bool.false_eq_true, if_false, behind]
  obtain ⟨task, _, running, _⟩ := claim env {} 30000000000 true false _ _
    (Step.run_concat_iff.mpr ⟨_, flooded, taken⟩) sessionOne _ (connections_dropTask _ _ _ _ _) rfl
      roomParsed.channelId 1 rfl
  cases running

end Sample

end RealtimePlatform.Proof.RelayLag
