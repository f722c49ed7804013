import RealtimePlatform.Proof.Transcript

namespace RealtimePlatform.Proof.RelayCount
open Library Backend Backend.Server Backend.UseCases Backend.Connection Transcript
open RelayLag (forwarded accounted_run)

structure Continues (c c' : Connection) : Prop where
  spawned : c.spawned ≤ c'.spawned
  running : ∀ seq task', seq < c.spawned → AList.lookup seq c'.tasks = some task' →
    ∃ task, AList.lookup seq c.tasks = some task ∧ task.source = task'.source
  written : ∃ more, c'.written = c.written ++ more

namespace Continues

theorem of_tasks {c c' : Connection} (spawned : c.spawned ≤ c'.spawned)
    (running : ∀ seq task', seq < c.spawned → AList.lookup seq c'.tasks = some task' →
      ∃ task, AList.lookup seq c.tasks = some task ∧ task.source = task'.source)
    (written : c'.written = c.written) : Continues c c' :=
  ⟨spawned, running, [], by rw [written, List.append_nil]⟩

theorem refl (c : Connection) : Continues c c :=
  .of_tasks (Nat.le_refl _) (fun _ task' _ there => ⟨task', there, rfl⟩) rfl

theorem trans {a b c : Connection} (first : Continues a b) (second : Continues b c) :
    Continues a c where
  spawned := Nat.le_trans first.spawned second.spawned
  running seq task' below there := by
    obtain ⟨task, before, same⟩ :=
      second.running seq task' (Nat.lt_of_lt_of_le below first.spawned) there
    obtain ⟨older, first', same'⟩ := first.running seq task below before
    exact ⟨older, first', same'.trans same⟩
  written := by
    obtain ⟨early, before⟩ := first.written
    obtain ⟨late, after⟩ := second.written
    exact ⟨early ++ late, by rw [after, before, List.append_assoc]⟩

theorem of_aborts {c c' : Connection} (aborts : Aborts c.tasks c'.tasks)
    (spawned : c'.spawned = c.spawned) {out : List Outgoing} (written : c'.written = c.written ++ out) :
    Continues c c' where
  spawned := Nat.le_of_eq spawned.symm
  running seq task' _ there := by
    obtain ⟨aborted, changed⟩ := aborts seq
    rw [changed] at there
    obtain ⟨task, before, rfl⟩ := Option.map_eq_some_iff.mp there
    exact ⟨task, before, rfl⟩
  written := ⟨out, written⟩

theorem of_eq {c c' : Connection} (tasks : c'.tasks = c.tasks) (spawned : c'.spawned = c.spawned)
    {out : List Outgoing} (written : c'.written = c.written ++ out) : Continues c c' :=
  .of_aborts (tasks ▸ aborts_refl c.tasks) spawned written

theorem spawnRelay (c : Connection) (key : String) (source : Source) (automatic : Bool) :
    Continues c (c.spawnRelay key source automatic) := by
  refine .of_tasks (Nat.le_succ _) (fun seq task' below there => ?_) rfl
  have kept : AList.lookup seq (c.spawnRelay key source automatic).tasks =
      AList.lookup seq (c.abortAt key).tasks := AList.lookup_insert_ne (Nat.ne_of_lt below)
  rw [kept] at there
  have cleared : Continues c (c.abortAt key) :=
    .of_aborts (aborts_abortAt key c) rfl (List.append_nil _).symm
  exact cleared.running seq task' below there

theorem insert {c c' : Connection} {seq : Nat} {task task' : RelayTask}
    (there : AList.lookup seq c.tasks = some task)
    (tasks : c'.tasks = AList.insert seq task' c.tasks) (source : task'.source = task.source)
    (spawned : c'.spawned = c.spawned) (written : c'.written = c.written) : Continues c c' := by
  refine .of_tasks (Nat.le_of_eq spawned.symm) (fun other found _ now => ?_) written
  rw [tasks] at now
  by_cases same : other = seq
  · subst same
    rw [AList.lookup_insert, Option.some.injEq] at now
    exact ⟨task, there, now ▸ source.symm⟩
  · rw [AList.lookup_insert_ne same] at now
    exact ⟨found, now, rfl⟩

theorem react (c : Connection) (frame : Frame) (command : FrameCommand) :
    Continues c (react frame command c) := by
  cases command with
  | subscribed key source => exact spawnRelay c key source _
  | unsubscribed key => exact .of_aborts (aborts_abortAt key c) rfl (List.append_nil _).symm
  | replayed frames => exact .of_eq rfl rfl (List.append_nil _).symm
  | closeAuthFailed =>
      have said : Continues c (c.write (farewell c.transport)) := .of_eq rfl rfl rfl
      exact said.trans (.of_aborts (aborts_shut _) rfl (List.append_nil _).symm)
  | none => exact .of_eq rfl rfl rfl

end Continues

section
variable {env : Env} {server server' : Server} {s : SessionId} {c c' : Connection} {e : Event}

theorem continues_of_moved (moved : Moved env server s e c c') : Continues c c' := by
  cases moved with
  | still => exact .refl c
  | handled handles =>
      rename_i bytes now frame command tenant ctx
      have returned : Continues c (returned env server s now c frame tenant) :=
        .of_eq rfl rfl (List.append_nil _).symm
      exact returned.trans (.react _ frame command)
  | received running => exact .insert running rfl rfl rfl rfl
  | ended =>
      refine .of_tasks (Nat.le_refl _) (fun seq task' _ there => ?_) rfl
      exact ⟨task', (Table.lookup_of_lookup_erase there).2, rfl⟩
  | queued running => exact .insert running rfl rfl rfl rfl
  | replayed => exact .of_eq rfl rfl (List.append_nil _).symm
  | wrote => exact .of_eq rfl rfl rfl
  | closed => exact .of_aborts (aborts_shut c) rfl (List.append_nil _).symm

theorem continues_step (taken : step env server e = some server')
    (there : server.connections s = some c) :
    ∃ c', server'.connections s = some c' ∧ Continues c c' := by
  obtain ⟨c', after⟩ := connections_kept taken there
  rcases step_moved taken after with ⟨_, _, fresh, _⟩ | ⟨d, before, moved⟩
  · rw [fresh] at there
    cases there
  · obtain rfl := Option.some.inj (there.symm.trans before)
    exact ⟨c', after, continues_of_moved moved⟩

end

section
variable {env : Env} {first server : Server} {before es : List Event} {s : SessionId}
  {c₀ : Connection}

structure Later (env : Env) (first : Server) (s : SessionId) (c₀ : Connection) (es : List Event)
    (server : Server) (c : Connection) : Prop where
  there : server.connections s = some c
  continues : Continues c₀ c
  follows : ∀ seq, seq < c₀.spawned → (AList.lookup seq c.tasks).isSome = true →
    Follows ⟨s, seq⟩ first.ctx.channelRouter server.ctx.channelRouter
  ran : ∀ entry ∈ transcript env first es s, entry.1 < c.spawned ∧
    (entry.1 < c₀.spawned → (AList.lookup entry.1 c₀.tasks).isSome = true)

theorem later_step {server' : Server} {c : Connection} {e : Event}
    (accounted : ∃ put, RelayLag.Accounted put server)
    (reached : (step env).run first es = some server) (later : Later env first s c₀ es server c)
    (taken : step env server e = some server') :
    ∃ c', Later env first s c₀ (es ++ [e]) server' c' := by
  obtain ⟨c', after, continues⟩ := continues_step taken later.there
  refine ⟨c', after, later.continues.trans continues, fun seq below live => ?_, fun entry member => ?_⟩
  · have older : seq < c.spawned := Nat.lt_of_lt_of_le below later.continues.spawned
    obtain ⟨task', now⟩ := Option.isSome_iff_exists.mp live
    obtain ⟨task, held, _⟩ := continues.running seq task' older now
    refine (later.follows seq below (Option.isSome_of_eq_some held)).trans (step_follows taken ?_ ?_)
    · intro d found
      obtain rfl := Option.some.inj (later.there.symm.trans found)
      exact older
    · intro d found
      obtain rfl := Option.some.inj (after.symm.trans found)
      exact live
  · rw [transcript_append s reached, transcript_single] at member
    rcases List.mem_append.mp member with old | new
    · obtain ⟨below, ran⟩ := later.ran entry old
      exact ⟨Nat.lt_of_lt_of_le below continues.spawned, ran⟩
    · rw [Option.mem_toList] at new
      obtain ⟨d, task, m, there, running, _, _⟩ := relayedTo_eq_some new
      obtain rfl := Option.some.inj (later.there.symm.trans there)
      obtain ⟨put, serves⟩ := accounted
      have below := (serves.serves s _ later.there entry.1 task running).1
      refine ⟨Nat.lt_of_lt_of_le below continues.spawned, fun older => ?_⟩
      obtain ⟨task₀, held, _⟩ := later.continues.running entry.1 task older running
      exact Option.isSome_of_eq_some held

theorem later_run {config : RateLimitConfig} {timeout : Nat} {hasRedis hasWebPush : Bool}
    (begun : (step env).run (start config timeout hasRedis hasWebPush) before = some first)
    (reached : (step env).run first es = some server) (there : first.connections s = some c₀) :
    ∃ c, Later env first s c₀ es server c := by
  have all : (step env).run first es = some server ∧ ∃ c, Later env first s c₀ es server c := by
    refine Step.run_induction
      (fun ds t => (step env).run first ds = some t ∧ ∃ c, Later env first s c₀ ds t c)
      ⟨rfl, c₀, there, .refl c₀, fun seq _ _ => .refl _, fun entry member => by cases member⟩
      (fun ds t e u passed held taken => ?_) reached
    obtain ⟨_, c, later⟩ := held
    have accounted := accounted_run (Step.run_append_iff.mpr ⟨first, begun, passed⟩)
    exact ⟨Step.run_concat_iff.mpr ⟨t, passed, taken⟩, later_step ⟨_, accounted⟩ passed later taken⟩
  exact all.2

end

end RealtimePlatform.Proof.RelayCount
