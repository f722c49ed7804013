import RealtimePlatform.Proof.Handling

namespace RealtimePlatform.Proof.Confidentiality
open Library Backend Backend.Server Backend.UseCases

/-- An AUTH of the session is accepted as the given user of the tenant, its token signed under a secret
that is active for the tenant. -/
def SignsIn (env : Env) (s : SessionId) (tenantId : TenantId) (sub : String) (server : Server)
    (e : Event) : Prop :=
  ∃ bytes now c frame claims, e = .inbound s bytes now ∧ Admitted server s bytes now c frame ∧
    acceptedClaims env frame now server.ctx = some claims ∧ claims.tenantId = tenantId ∧
    claims.sub = sub ∧ ∃ secret ∈ server.ctx.auth.activeSecrets tenantId,
      TokenService.SignedUnder env.codec frame.payload claims secret

/-- A SUB of the session is handled under the tenant and names `channelId`. -/
def Subscribes (s : SessionId) (tenantId : TenantId) (channelId : String) (server : Server)
    (e : Event) : Prop :=
  ∃ bytes now c frame, e = .inbound s bytes now ∧ Admitted server s bytes now c frame ∧
    frame.opcode = .subscribe ∧ c.authenticatedTenant = some tenantId ∧ frame.tenantId = tenantId ∧
    frame.channelId = channelId

section
variable (env : Env) (first : Server)

def Cleared (es : List Event) (s : SessionId) (tenantId : TenantId) : Prop :=
  (step env).Happened (fun server e => ∃ sub, SignsIn env s tenantId sub server e) first es

inductive Granted (es : List Event) (s : SessionId) : Source → Prop
  | inbox {tenantId sub} : (step env).Happened (SignsIn env s tenantId sub) first es →
      Granted es s (.channel ⟨tenantId, unicastInboxChannel sub⟩)
  | exact {tenantId channelId} : (step env).Happened (Subscribes s tenantId channelId) first es →
      Granted es s (.channel ⟨tenantId, channelId⟩)
  | pattern {tenantId pattern} : (step env).Happened (Subscribes s tenantId pattern) first es →
      isPattern pattern = true → Granted es s (.wildcard ⟨tenantId, pattern⟩)

end

structure Rightful (A : TenantId → Prop) (G : Source → Prop) (item : Queued) : Prop where
  tenant : A item.message.key.tenantId
  source : ∀ source, item.via = .relay source → G source ∧ source.matches item.message.key = true

structure Sound (A : TenantId → Prop) (G : Source → Prop) (c : Connection) : Prop where
  tenant : ∀ tenantId, c.authenticatedTenant = some tenantId → A tenantId
  tasks : ∀ seq task, AList.lookup seq c.tasks = some task → A task.source.tenantId ∧ G task.source ∧
    ∀ m, task.inFlight = some m → task.source.matches m.key = true
  replaying : ∀ m ∈ c.replaying, A m.key.tenantId
  queue : ∀ item ∈ c.outQueue, Rightful A G item
  written : ∀ item, .relayed item ∈ c.written → Rightful A G item

section
variable {A B : TenantId → Prop} {G H : Source → Prop} {c : Connection}

theorem Rightful.mono {item : Queued} (rightful : Rightful A G item) (tenants : ∀ t, A t → B t)
    (sources : ∀ t, G t → H t) : Rightful B H item :=
  ⟨tenants _ rightful.tenant, fun source via => (rightful.source source via).imp_left (sources source)⟩

theorem Sound.mono (sound : Sound A G c) (tenants : ∀ t, A t → B t) (sources : ∀ t, G t → H t) :
    Sound B H c where
  tenant tenantId found := tenants _ (sound.tenant tenantId found)
  tasks seq task found := by
    obtain ⟨cleared, granted, own⟩ := sound.tasks seq task found
    exact ⟨tenants _ cleared, sources _ granted, own⟩
  replaying m member := tenants _ (sound.replaying m member)
  queue item member := (sound.queue item member).mono tenants sources
  written item member := (sound.written item member).mono tenants sources

theorem sound_new (transport : Transport) : Sound A G (Connection.new transport) where
  tenant tenantId found := by cases found
  tasks seq task found := by cases found
  replaying m member := by cases member
  queue item member := by cases member
  written item member := by cases member

theorem Sound.retask (sound : Sound A G c) (tasks : Table Nat RelayTask)
    (older : ∀ seq task, AList.lookup seq tasks = some task → ∃ task',
      AList.lookup seq c.tasks = some task' ∧ task'.source = task.source ∧
        task'.inFlight = task.inFlight) : Sound A G { c with tasks := tasks } where
  tenant := sound.tenant
  tasks seq task found := by
    obtain ⟨task', there, source, inFlight⟩ := older seq task found
    obtain ⟨cleared, granted, own⟩ := sound.tasks seq task' there
    rw [source, inFlight] at own
    rw [source] at cleared granted
    exact ⟨cleared, granted, own⟩
  replaying := sound.replaying
  queue := sound.queue
  written := sound.written

theorem Sound.insert (sound : Sound A G c) (seq : Nat) (task : RelayTask)
    (cleared : A task.source.tenantId) (granted : G task.source)
    (own : ∀ m, task.inFlight = some m → task.source.matches m.key = true) :
    Sound A G { c with tasks := AList.insert seq task c.tasks } where
  tenant := sound.tenant
  tasks q other found := by
    by_cases same : q = seq
    · subst same
      rw [AList.lookup_insert, Option.some.injEq] at found
      exact found ▸ ⟨cleared, granted, own⟩
    · rw [AList.lookup_insert_ne same] at found
      exact sound.tasks q other found
  replaying := sound.replaying
  queue := sound.queue
  written := sound.written

theorem Sound.erase {seq : Nat} (sound : Sound A G c) :
    Sound A G { c with tasks := AList.erase seq c.tasks } := by
  refine sound.retask _ fun q task found => ⟨task, ?_, rfl, rfl⟩
  by_cases same : q = seq
  · rw [same, AList.lookup_erase] at found
    cases found
  · rwa [AList.lookup_erase_ne same] at found

theorem Sound.abortAt (sound : Sound A G c) (key : String) : Sound A G (c.abortAt key) := by
  refine sound.retask _ fun q task found => ?_
  cases there : AList.lookup key c.relayTasks with
  | none =>
      rw [there] at found
      exact ⟨task, found, rfl, rfl⟩
  | some seq =>
      rw [there] at found
      change AList.lookup q (Table.adjust seq _ c.tasks) = some task at found
      by_cases same : q = seq
      · subst same
        rw [Table.lookup_adjust] at found
        obtain ⟨older, held, rfl⟩ := Option.map_eq_some_iff.mp found
        exact ⟨older, held, rfl, rfl⟩
      · rw [Table.lookup_adjust_ne _ _ same] at found
        exact ⟨task, found, rfl, rfl⟩

theorem Sound.unsubscribe (sound : Sound A G c) (key : String) : Sound A G (c.unsubscribe key) := by
  have cleared := sound.abortAt key
  exact ⟨cleared.tenant, cleared.tasks, cleared.replaying, cleared.queue, cleared.written⟩

theorem Sound.spawnRelay (sound : Sound A G c) (key : String) {source : Source} (automatic : Bool)
    (cleared : A source.tenantId) (granted : G source) :
    Sound A G (c.spawnRelay key source automatic) := by
  have spawned := (sound.abortAt key).insert c.spawned
    ⟨source, automatic, 0, none, false⟩ cleared granted fun m held => by cases held
  exact ⟨spawned.tenant, spawned.tasks, spawned.replaying, spawned.queue, spawned.written⟩

theorem Sound.write (sound : Sound A G c) {out : List Outgoing}
    (plain : ∀ item, .relayed item ∉ out) : Sound A G (c.write out) where
  tenant := sound.tenant
  tasks := sound.tasks
  replaying := sound.replaying
  queue := sound.queue
  written item member := by
    rcases List.mem_append.mp member with older | new
    · exact sound.written item older
    · exact absurd new (plain item)

theorem Sound.shut (sound : Sound A G c) : Sound A G c.shut := by
  have retasked := sound.retask c.shut.tasks fun seq task found => by
    unfold Connection.shut at found
    rw [Table.lookup_rewrite] at found
    obtain ⟨older, held, rfl⟩ := Option.map_eq_some_iff.mp found
    refine ⟨older, held, ?_, ?_⟩ <;> split <;> rfl
  exact ⟨retasked.tenant, retasked.tasks, retasked.replaying, (fun item member => by cases member),
    retasked.written⟩

theorem Sound.enqueue (sound : Sound A G c) {item : Queued} (rightful : Rightful A G item) :
    Sound A G { c with outQueue := c.outQueue ++ [item] } where
  tenant := sound.tenant
  tasks := sound.tasks
  replaying := sound.replaying
  queue other member := by
    rcases List.mem_append.mp member with older | last
    · exact sound.queue other older
    · exact List.mem_singleton.mp last ▸ rightful
  written := sound.written

theorem Sound.dequeue (sound : Sound A G c) {item : Queued} {rest : List Queued}
    (queue : c.outQueue = item :: rest) :
    Sound A G ({ c with outQueue := rest }.write [.relayed item]) where
  tenant := sound.tenant
  tasks := sound.tasks
  replaying := sound.replaying
  queue other member := sound.queue other (queue ▸ List.mem_cons_of_mem item member)
  written other member := by
    rcases List.mem_append.mp member with older | last
    · exact sound.written other older
    · cases List.mem_singleton.mp last
      exact sound.queue item (queue ▸ List.mem_cons_self)

theorem Sound.replay (sound : Sound A G c) {frames : List Message}
    (cleared : ∀ m ∈ frames, A m.key.tenantId) : Sound A G { c with replaying := frames } :=
  ⟨sound.tenant, sound.tasks, cleared, sound.queue, sound.written⟩

theorem Sound.identified (sound : Sound A G c) {tenantId : TenantId} (sub : String)
    (cleared : A tenantId) : Sound A G (identified tenantId sub c) where
  tenant _ found := Option.some.inj found ▸ cleared
  tasks := sound.tasks
  replaying := sound.replaying
  queue := sound.queue
  written := sound.written

end

theorem plain_farewell (transport : Transport) (item : Queued) :
    .relayed item ∉ farewell transport := by
  cases transport <;> simp [farewell]

theorem plain_pong (transport : Transport) (frame : Frame) (tenant : Option TenantId) (item : Queued) :
    .relayed item ∉ pong transport frame tenant := by
  unfold pong
  split <;> simp

section
variable {env : Env} {first server server' : Server} {es : List Event} {s : SessionId}
  {c c' : Connection}

theorem signsIn_of_handles {bytes : List UInt8} {now : Clock} {frame : Frame} {command : FrameCommand}
    {tenant : Option TenantId} {ctx : RealtimeContext} {claims : Claims}
    (handles : Handles env server s bytes now c frame command tenant ctx)
    (accepted : acceptedClaims env frame now server.ctx = some claims) :
    SignsIn env s frame.tenantId claims.sub server (.inbound s bytes now) := by
  obtain ⟨own, _, secret, active, signed⟩ :=
    TokenService.validate_ok (acceptedClaims_eq_some.mp accepted).2
  exact ⟨bytes, now, c, frame, claims, rfl, handles.toAdmitted, accepted, own, rfl, secret, own ▸ active,
    signed⟩

theorem sound_of_moved {e : Event} {A : TenantId → Prop} {G : Source → Prop}
    (keyed : Keyed server.ctx.channelRouter) (streams : KeyedStreams server.redis) (sound : Sound A G c)
    (moved : Moved env server s e c c')
    (signedIn : ∀ tenantId sub, SignsIn env s tenantId sub server e →
      A tenantId ∧ G (.channel ⟨tenantId, unicastInboxChannel sub⟩))
    (subscribed : ∀ tenantId channelId, Subscribes s tenantId channelId server e →
      G (.channel ⟨tenantId, channelId⟩) ∧
        (isPattern channelId = true → G (.wildcard ⟨tenantId, channelId⟩))) : Sound A G c' := by
  cases moved with
  | still => exact sound
  | handled handles =>
      rename_i bytes now frame command tenant ctx
      cases handles.dispatched with
      | accepted claims opcode valid =>
          have accepted : acceptedClaims env frame now server.ctx = some claims :=
            acceptedClaims_eq_some.mpr ⟨opcode, valid⟩
          obtain ⟨cleared, granted⟩ := signedIn _ _ (signsIn_of_handles handles accepted)
          rw [returned_accepted accepted]
          exact (sound.identified claims.sub cleared).spawnRelay _ _ cleared granted
      | rejected err opcode invalid =>
          have refused : acceptedClaims env frame now server.ctx = none := by
            simp only [charged] at invalid
            simp [acceptedClaims, opcode, invalid, Except.toOption]
          rw [returned_refused refused]
          exact (sound.write (plain_farewell c.transport)).shut
      | idle opcode =>
          rw [returned_eq opcode]
          exact sound.write (plain_pong _ _ _)
      | beat opcode =>
          rw [returned_eq (by rw [opcode]; decide)]
          exact sound.write (plain_pong _ _ _)
      | published key named owned =>
          rw [returned_eq (opcode_of_publishKey named)]
          exact sound.write (plain_pong _ _ _)
      | replayed frames router opcode owned exact found =>
          rw [returned_eq (by rw [opcode]; decide)]
          refine sound.replay fun m member => ?_
          rw [key_of_replayed keyed streams found member]
          exact sound.tenant _ owned
      | unsubPattern opcode owned pattern =>
          rw [returned_eq (by rw [opcode]; decide)]
          exact sound.unsubscribe _
      | unsubExact opcode owned exact =>
          rw [returned_eq (by rw [opcode]; decide)]
          exact sound.unsubscribe _
      | pattern opcode owned pattern =>
          rw [returned_eq (by rw [opcode]; decide)]
          have named := subscribed frame.tenantId frame.channelId
            ⟨bytes, now, c, frame, rfl, handles.toAdmitted, opcode, owned, rfl, rfl⟩
          exact sound.spawnRelay _ _ (sound.tenant _ owned) (named.2 pattern)
      | exact opcode owned exact =>
          rw [returned_eq (by rw [opcode]; decide)]
          have named := subscribed frame.tenantId frame.channelId
            ⟨bytes, now, c, frame, rfl, handles.toAdmitted, opcode, owned, rfl, rfl⟩
          exact sound.spawnRelay _ _ (sound.tenant _ owned) named.1
  | received running free got =>
      obtain ⟨cleared, granted, _⟩ := sound.tasks _ _ running
      refine sound.insert _ _ cleared granted fun m held => ?_
      obtain ⟨log, sent, member⟩ := ChannelRouterService.mem_of_receive got
      exact Option.some.inj held ▸ keyed.sent _ _ log sent _ member
  | ended => exact sound.erase
  | queued running holding isOpen spare =>
      rename_i seq task m
      obtain ⟨cleared, granted, own⟩ := sound.tasks _ _ running
      have matching := own m holding
      refine (sound.insert seq { task with inFlight := none } cleared granted
        fun m held => by cases held).enqueue ⟨?_, fun source via => ?_⟩
      · exact Source.tenantId_of_matches matching ▸ cleared
      · exact Via.relay.inj via ▸ ⟨granted, matching⟩
  | replayed pending isOpen spare =>
      rename_i m rest
      have cleared := sound.replaying
      rw [pending] at cleared
      refine (sound.replay fun q member => cleared q (List.mem_cons_of_mem m member)).enqueue
        ⟨cleared m List.mem_cons_self, fun source via => ?_⟩
      cases via
  | wrote _ queue => exact sound.dequeue queue
  | closed => exact sound.shut

theorem streams_step {e : Event} (keyed : Keyed server.ctx.channelRouter)
    (streams : KeyedStreams server.redis) (taken : step env server e = some server') :
    KeyedStreams server'.redis := by
  rcases step_redis taken with same | ⟨key, m, maxlen, evicted, id, source, added⟩
  · exact same ▸ streams
  · refine keyed_xadd streams ?_ added
    rcases source with ⟨frame, rfl⟩ | ⟨rest, port⟩
    · rfl
    · exact keyed.outbound _ port (key, m) List.mem_cons_self

structure Confined (env : Env) (first : Server) (es : List Event) (server : Server) : Prop where
  keyed : Keyed server.ctx.channelRouter
  streams : KeyedStreams server.redis
  sound : ∀ s c, server.connections s = some c →
    Sound (Cleared env first es s) (Granted env first es s) c

theorem Granted.mono {fs : List Event} {source : Source} (granted : Granted env first es s source)
    (longer : es <+: fs) : Granted env first fs s source := by
  cases granted with
  | inbox happened => exact .inbox (happened.mono longer fun _ _ => id)
  | exact happened => exact .exact (happened.mono longer fun _ _ => id)
  | pattern happened glob => exact .pattern (happened.mono longer fun _ _ => id) glob

theorem confined_step {e : Event} (reached : (step env).run first es = some server)
    (confined : Confined env first es server) (taken : step env server e = some server') :
    Confined env first (es ++ [e]) server' where
  keyed := (step_routed taken).keyed confined.keyed
  streams := streams_step confined.keyed confined.streams taken
  sound s c' found := by
    rcases step_moved taken found with ⟨transport, _, _, rfl⟩ | ⟨c, there, moved⟩
    · exact sound_new transport
    have longer := List.prefix_append es [e]
    have before := (confined.sound s c there).mono (B := Cleared env first (es ++ [e]) s)
      (H := Granted env first (es ++ [e]) s) (fun t cleared => cleared.mono longer fun _ _ => id)
      fun t granted => granted.mono longer
    refine sound_of_moved confined.keyed confined.streams before moved ?_ ?_
    · intro tenantId sub signing
      exact ⟨Step.happened_concat reached ⟨sub, signing⟩,
        .inbox (Step.happened_concat reached signing)⟩
    · intro tenantId channelId subscribing
      exact ⟨.exact (Step.happened_concat reached subscribing),
        .pattern (Step.happened_concat reached subscribing)⟩

theorem confined_start (env : Env) (config : RateLimitConfig) (timeout : Nat)
    (hasRedis hasWebPush : Bool) :
    Confined env (start config timeout hasRedis hasWebPush) []
      (start config timeout hasRedis hasWebPush) where
  keyed := by
    refine ⟨fun source rx log found => ?_, fun key e member => ?_, fun port found pair member => ?_⟩
    · cases hasRedis <;> cases source <;> cases found
    · cases hasRedis <;> cases member
    · cases hasRedis <;> cases found
      cases member
  streams name e member := by cases member
  sound s c found := by cases found

theorem confined_of_run {config : RateLimitConfig} {timeout : Nat} {hasRedis hasWebPush : Bool}
    (reached : (step env).run (start config timeout hasRedis hasWebPush) es = some server) :
    Confined env (start config timeout hasRedis hasWebPush) es server :=
  Step.run_induction (Confined env (start config timeout hasRedis hasWebPush))
    (confined_start env config timeout hasRedis hasWebPush)
    (fun _ _ _ _ before confined taken => confined_step before confined taken) reached

end

/-- Whatever is written to a session of a frame published for a tenant comes after an AUTH of the
session that was accepted for that tenant. -/
theorem written_only_to_cleared {env : Env} {config : RateLimitConfig} {timeout : Nat}
    {hasRedis hasWebPush : Bool} {es : List Event} {server : Server} {s : SessionId} {c : Connection}
    {item : Queued}
    (reached : (step env).run (start config timeout hasRedis hasWebPush) es = some server)
    (there : server.connections s = some c) (written : .relayed item ∈ c.written) :
    (step env).Happened (fun t e => ∃ sub, SignsIn env s item.message.key.tenantId sub t e)
      (start config timeout hasRedis hasWebPush) es :=
  (((confined_of_run reached).sound s c there).written item written).tenant

theorem written_overheard : (step Sample.env).Happened
    (fun t e => ∃ sub, SignsIn Sample.env Sample.sessionOne SampleToken.tenantOne sub t e)
    (Sample.started false) Sample.overheardEvents :=
  written_only_to_cleared Sample.run_overheard Sample.connections_overheard List.mem_cons_self

theorem unicastInboxChannel_injective : Function.Injective unicastInboxChannel := by
  intro user user' same
  have texts := congrArg String.toList same
  simp only [unicastInboxChannel, String.toList_append] at texts
  exact String.toList_inj.mp (List.append_cancel_left texts)

/-- A UNICAST that is relayed to a session reaches a user that signed in on it, or one whose inbox a SUB
of the session names or matches. -/
theorem unicast_only_to_granted {env : Env} {config : RateLimitConfig} {timeout : Nat}
    {hasRedis hasWebPush : Bool} {es : List Event} {server : Server} {s : SessionId} {c : Connection}
    {item : Queued} {source : Source} {frame : Frame}
    (reached : (step env).run (start config timeout hasRedis hasWebPush) es = some server)
    (there : server.connections s = some c) (written : .relayed item ∈ c.written)
    (via : item.via = .relay source) (opcode : frame.opcode = .unicast)
    (sent : publishKey frame = some item.message.key) :
    (step env).Happened (fun t e => ∃ sub, SignsIn env s frame.tenantId sub t e)
        (start config timeout hasRedis hasWebPush) es ∧
      ((step env).Happened (SignsIn env s frame.tenantId frame.channelId)
          (start config timeout hasRedis hasWebPush) es ∨
        ∃ channelId, (channelId = unicastInboxChannel frame.channelId ∨ isPattern channelId = true ∧
            globMatch channelId (unicastInboxChannel frame.channelId) = true) ∧
          (step env).Happened (Subscribes s frame.tenantId channelId)
            (start config timeout hasRedis hasWebPush) es) := by
  have rightful := ((confined_of_run reached).sound s c there).written item written
  obtain ⟨granted, matching⟩ := rightful.source source via
  have key : item.message.key = inboxKey frame frame.channelId := by
    simp only [publishKey, opcode, Option.some.injEq] at sent
    exact sent.symm
  have cleared := rightful.tenant
  rw [key] at matching cleared
  refine ⟨cleared, ?_⟩
  cases granted with
  | inbox signing =>
      obtain ⟨rfl, name⟩ := ChannelKey.mk.inj (of_decide_eq_true matching)
      obtain rfl := unicastInboxChannel_injective name
      exact Or.inl signing
  | exact subscribing =>
      obtain ⟨rfl, rfl⟩ := ChannelKey.mk.inj (of_decide_eq_true matching)
      exact Or.inr ⟨_, Or.inl rfl, subscribing⟩
  | pattern subscribing glob =>
      obtain ⟨tenant, hit⟩ := Bool.and_eq_true _ _ |>.mp matching
      obtain rfl := of_decide_eq_true tenant
      exact Or.inr ⟨_, Or.inr ⟨glob, hit⟩, subscribing⟩

section Sample
open SampleToken Sample

theorem unicast_overheard :
    (step env).Happened (fun t e => ∃ sub, SignsIn env sessionOne toBobParsed.tenantId sub t e)
        (started false) overheardEvents ∧
      ((step env).Happened (SignsIn env sessionOne toBobParsed.tenantId toBobParsed.channelId)
          (started false) overheardEvents ∨
        ∃ channelId, (channelId = unicastInboxChannel toBobParsed.channelId ∨
            isPattern channelId = true ∧
              globMatch channelId (unicastInboxChannel toBobParsed.channelId) = true) ∧
          (step env).Happened (Subscribes sessionOne toBobParsed.tenantId channelId) (started false)
            overheardEvents) :=
  unicast_only_to_granted run_overheard connections_overheard List.mem_cons_self rfl rfl
    publishKey_toBobParsed

theorem inbox_overheard :
    ¬ ∀ (env : Env) (config : RateLimitConfig) (timeout : Nat) (hasRedis hasWebPush : Bool)
      (es : List Event) (server : Server) (s : SessionId) (c : Connection) (item : Queued)
      (source : Source) (frame : Frame),
      (step env).run (start config timeout hasRedis hasWebPush) es = some server →
        server.connections s = some c → .relayed item ∈ c.written → item.via = .relay source →
        frame.opcode = .unicast → item.message.frame = frame.raw →
        publishKey frame = some item.message.key →
        c.identity = some (frame.tenantId, frame.channelId) := by
  intro claim
  have same := claim env {} 30000000000 false false _ _ sessionOne _ _ _ toBobParsed run_overheard
    connections_overheard List.mem_cons_self rfl rfl rfl publishKey_toBobParsed
  have users : "a" = trimEndNul "b" := (Prod.mk.inj (Option.some.inj same)).2
  exact absurd users (by decide)

end Sample

end RealtimePlatform.Proof.Confidentiality
