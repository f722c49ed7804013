import RealtimePlatform.Proof.RelayCount

namespace RealtimePlatform.Proof.WireOrder
open Library Backend Backend.Server Backend.UseCases Backend.Connection Transcript RelayCount
open RelayLag (forwarded Accounted accounted_run Holds)

def Begins (env : Env) (s : SessionId) (seq : Nat) (source : Source) (server : Server) (e : Event) :
    Prop :=
  ∃ server' c c', step env server e = some server' ∧ server.connections s = some c ∧
    AList.lookup seq c.tasks = none ∧ server'.connections s = some c' ∧
    (AList.lookup seq c'.tasks).map (·.source) = some source

/-- The entries are what was published since the session was given the task. -/
def PublishedSince (env : Env) (first : Server) (s : SessionId) (seq : Nat) (source : Source)
    (es : List Event) (server : Server) (entries : List (ChannelKey × Message × Nat)) : Prop :=
  ∃ before e after t, es = before ++ e :: after ∧ (step env).run first before = some t ∧
    Begins env s seq source t e ∧
    server.ctx.channelRouter.journal = t.ctx.channelRouter.journal ++ entries

def Followed (env : Env) (first : Server) (es : List Event) (server : Server) : Prop :=
  ∀ s c seq task, server.connections s = some c → AList.lookup seq c.tasks = some task →
    ∃ entries, PublishedSince env first s seq task.source es server entries ∧
      server.ctx.channelRouter.sent task.source ⟨s, seq⟩ = some (passed task.source entries)

section
variable {env : Env} {first server server' : Server} {e : Event} {s : SessionId} {c c' : Connection}
  {seq : Nat} {task' : RelayTask}

theorem lookup_of_aborts {tasks tasks' : Table Nat RelayTask} (aborts : Aborts tasks tasks')
    (found : AList.lookup seq tasks' = some task') : (AList.lookup seq tasks).isSome = true := by
  obtain ⟨aborted, changed⟩ := aborts seq
  rw [changed, Option.map_eq_some_iff] at found
  obtain ⟨task, before, _⟩ := found
  exact Option.isSome_of_eq_some before

theorem lookup_of_insert {tasks : Table Nat RelayTask} {n : Nat} {task task₁ : RelayTask}
    (running : AList.lookup n tasks = some task)
    (found : AList.lookup seq (AList.insert n task₁ tasks) = some task') :
    (AList.lookup seq tasks).isSome = true := by
  by_cases same : seq = n
  · subst same
    exact Option.isSome_of_eq_some running
  · rw [AList.lookup_insert_ne same] at found
    exact Option.isSome_of_eq_some found

theorem spawned_of_moved (moved : Moved env server s e c c')
    (found : AList.lookup seq c'.tasks = some task') : (AList.lookup seq c.tasks).isSome = true ∨
      seq = c.spawned ∧ ∃ bytes now frame key tenant ctx, e = .inbound s bytes now ∧
        Handles env server s bytes now c frame (.subscribed key task'.source) tenant ctx := by
  cases moved with
  | still => exact Or.inl (Option.isSome_of_eq_some found)
  | handled handles =>
      rename_i bytes now frame command tenant ctx
      cases command with
      | subscribed key source =>
          by_cases last : seq = c.spawned
          · subst last
            have new : AList.lookup c.spawned (react frame (.subscribed key source)
                (returned env server s now c frame tenant)).tasks =
                  some ⟨source, decide (frame.opcode = .auth), 0, none, false⟩ := AList.lookup_insert _
            rw [new, Option.some.injEq] at found
            subst found
            exact Or.inr ⟨rfl, bytes, now, frame, key, tenant, ctx, rfl, handles⟩
          · have older : AList.lookup seq
                ((returned env server s now c frame tenant).abortAt key).tasks = some task' :=
              (AList.lookup_insert_ne last).symm.trans found
            exact Or.inl (lookup_of_aborts (aborts_abortAt key _) older)
      | unsubscribed key => exact Or.inl (lookup_of_aborts (aborts_abortAt key _) found)
      | closeAuthFailed => exact Or.inl (lookup_of_aborts (aborts_shut _) found)
      | replayed frames => exact Or.inl (Option.isSome_of_eq_some found)
      | none => exact Or.inl (Option.isSome_of_eq_some found)
  | received running | queued running => exact Or.inl (lookup_of_insert running found)
  | ended => exact Or.inl (Option.isSome_of_eq_some (Table.lookup_of_lookup_erase found).2)
  | replayed | wrote => exact Or.inl (Option.isSome_of_eq_some found)
  | closed => exact Or.inl (lookup_of_aborts (aborts_shut c) found)

theorem sent_begun {bytes : List UInt8} {now : Clock} {frame : Frame} {key : String} {source : Source}
    {tenant : Option TenantId} {ctx : RealtimeContext}
    (handles : Handles env server s bytes now c frame (.subscribed key source) tenant ctx) :
    ∃ entries, ctx.channelRouter.journal = server.ctx.channelRouter.journal ++ entries ∧
      ctx.channelRouter.sent source ⟨s, c.spawned⟩ = some (passed source entries) := by
  obtain ⟨r, obtains, journal, broadcasts⟩ := handles.dispatched.obtained
  obtain ⟨entries, published, sent⟩ := @Follows.of_broadcasts ⟨s, c.spawned⟩ r _ broadcasts
  refine ⟨entries, ?_, ?_⟩
  · rw [published, journal]
    rfl
  · rw [sent, obtains, if_pos ⟨rfl, rfl⟩]
    rfl

theorem handled_eq {bytes : List UInt8} {now : Clock} {frame : Frame} {command : FrameCommand}
    {tenant : Option TenantId} {ctx : RealtimeContext}
    (handles : Handles env server s bytes now c frame command tenant ctx)
    (taken : step env server (.inbound s bytes now) = some server') :
    server' = (server.setCtx (settled s now (returned env server s now c frame tenant) frame command
      ctx)).setConnection s (react frame command (returned env server s now c frame tenant)) := by
  obtain ⟨command', tenant', ctx', again, result⟩ := handles.toAdmitted.handled taken
  have same := handles.executed.symm.trans again.executed
  obtain ⟨rfl, rest⟩ := Prod.mk.inj same
  obtain ⟨rfl, rfl⟩ := Prod.mk.inj rest
  exact result

theorem PublishedSince.later {source : Source} {es : List Event}
    {entries more : List (ChannelKey × Message × Nat)}
    (since : PublishedSince env first s seq source es server entries)
    (journal : server'.ctx.channelRouter.journal = server.ctx.channelRouter.journal ++ more) (e : Event) :
    PublishedSince env first s seq source (es ++ [e]) server' (entries ++ more) := by
  obtain ⟨before, d, after, t, split, reached, begins, published⟩ := since
  refine ⟨before, d, after ++ [e], t, by simp [split], reached, begins, ?_⟩
  rw [journal, published, List.append_assoc]

theorem followed_step {es : List Event} (accounted : ∃ put, Accounted put server)
    (reached : (step env).run first es = some server) (followed : Followed env first es server)
    (taken : step env server e = some server') : Followed env first (es ++ [e]) server' := by
  intro s c' seq task' found running'
  rcases step_moved taken found with ⟨_, _, _, rfl⟩ | ⟨c, there, moved⟩
  · cases running'
  obtain ⟨put, accounted⟩ := accounted
  rcases spawned_of_moved moved running' with older | ⟨rfl, bytes, now, frame, key, tenant, ctx, rfl, handles⟩
  · obtain ⟨task, running⟩ := Option.isSome_iff_exists.mp older
    have below : seq < c.spawned := (accounted.serves s c there seq task running).1
    obtain ⟨task₁, again, source⟩ := (continues_of_moved moved).running seq task' below running'
    obtain rfl := Option.some.inj (running.symm.trans again)
    obtain ⟨entries, since, sent⟩ := followed s c seq task there running
    have follows : Follows ⟨s, seq⟩ server.ctx.channelRouter server'.ctx.channelRouter := by
      refine step_follows taken (fun d other => ?_) fun d other => ?_
      · exact Option.some.inj (there.symm.trans other) ▸ below
      · exact Option.some.inj (found.symm.trans other) ▸ Option.isSome_of_eq_some running'
    obtain ⟨more, journal, logs⟩ := follows
    refine ⟨entries ++ more, source ▸ since.later journal e, ?_⟩
    rw [logs, ← source, sent, Option.map_some, passed_append]
  · obtain ⟨entries, journal, sent⟩ := sent_begun handles
    have settles := settled_broadcasts s now (returned env server s now c frame tenant) frame
      (.subscribed key task'.source) ctx
    have fresh : AList.lookup c.spawned c.tasks = none := by
      cases taken' : AList.lookup c.spawned c.tasks with
      | none => rfl
      | some task => exact absurd (accounted.serves s c there _ task taken').1 (Nat.lt_irrefl _)
    obtain rfl := handled_eq handles taken
    refine ⟨entries, ⟨es, .inbound s bytes now, [], server, rfl, reached, ?_, journal⟩, sent⟩
    refine ⟨_, c, c', taken, there, fresh, found, ?_⟩
    rw [running', Option.map_some]

end

section
variable {env : Env} {config : RateLimitConfig} {timeout : Nat} {hasRedis hasWebPush : Bool}
  {server : Server} {es : List Event}

theorem passed_channel (key : ChannelKey) (entries : List (ChannelKey × Message × Nat)) :
    passed (.channel key) entries = (entries.filter (·.1 = key)).map (·.2.1) := by
  unfold passed
  congr 1
  apply List.filter_congr
  intro entry _
  simp [Source.matches, eq_comm]

theorem followed_run (reached : (step env).run (start config timeout hasRedis hasWebPush) es = some server) :
    Followed env (start config timeout hasRedis hasWebPush) es server := by
  have all : (step env).run (start config timeout hasRedis hasWebPush) es = some server ∧
      Followed env (start config timeout hasRedis hasWebPush) es server := by
    refine Step.run_induction (fun ds t =>
      (step env).run (start config timeout hasRedis hasWebPush) ds = some t ∧
        Followed env (start config timeout hasRedis hasWebPush) ds t) ⟨rfl, ?_⟩
      (fun ds t e u passed held taken => ?_) reached
    · intro s c seq task found
      cases found
    · exact ⟨Step.run_concat_iff.mpr ⟨t, passed, taken⟩,
        followed_step ⟨_, accounted_run passed⟩ passed held.2 taken⟩
  exact all.2

/-- What one task has forwarded, taken from the transcript of its session. -/
def ofTask (seq : Nat) (numbered : List (Nat × Queued)) : List Message :=
  (numbered.filter (·.1 = seq)).map (·.2.message)

theorem forwarded_eq (s : SessionId) (seq : Nat) (server : Server) (e : Event) :
    forwarded s seq server e = (relayedTo s server e).bind fun entry =>
      if entry.1 = seq then some entry.2.message else none := by
  cases e with
  | relaySend q n =>
      simp only [forwarded, relayedTo]
      by_cases own : q = s
      · by_cases same : n = seq
        · subst same
          cases (server.connections s).filter (·.isOpen) with
          | none => simp [own]
          | some c =>
              cases running : AList.lookup n c.tasks with
              | none => simp [own, running]
              | some task => cases holding : task.inFlight <;> simp [own, running, holding]
        · cases (server.connections s).filter (·.isOpen) with
          | none => simp [own]
          | some c =>
              cases running : AList.lookup n c.tasks with
              | none => simp [own, same, running]
              | some task => cases holding : task.inFlight <;> simp [own, same, running, holding]
      · simp [own]
  | _ => rfl

theorem observed_forwarded (env : Env) (first : Server) (es : List Event) (s : SessionId) (seq : Nat) :
    (step env).observed (forwarded s seq) first es = ofTask seq (transcript env first es s) := by
  have views : forwarded s seq = fun t e => (relayedTo s t e).bind fun entry =>
      if entry.1 = seq then some entry.2.message else none :=
    funext fun t => funext fun e => forwarded_eq s seq t e
  rw [views, Step.observed_filterMap, ofTask, transcript]
  induction (step env).observed (relayedTo s) first es with
  | nil => rfl
  | cons entry rest ih => by_cases own : entry.1 = seq <;> simp [own, ih]

end

section Sample
open SampleToken Sample

end Sample

end RealtimePlatform.Proof.WireOrder
