import RealtimePlatform.Backend.Ledger
import RealtimePlatform.Backend.Relays

/-!
# Which relays a session keeps

Between two of its own frames an open session loses a relay only where the relay's receiver is over, and the
limiter keeps its bucket as it is.
-/

namespace RealtimePlatform.Backend
open Library UseCases Server Connection

def arrivalOf (s : SessionId) : Event → Option (List UInt8 × Clock)
  | .inbound q bytes now => if q = s then some (bytes, now) else none
  | _ => none

theorem arrivalOf_inbound (s : SessionId) (bytes : List UInt8) (now : Clock) :
    arrivalOf s (.inbound s bytes now) = some (bytes, now) := if_pos rfl

theorem arrivalOf_eq_some {s : SessionId} {e : Event} {bytes : List UInt8} {now : Clock} :
    arrivalOf s e = some (bytes, now) ↔ e = .inbound s bytes now := by
  constructor
  · intro arrives
    cases e with
    | inbound q found reading =>
        obtain ⟨rfl, same⟩ := Option.ite_none_right_eq_some.mp arrives
        cases same
        rfl
    | _ => cases arrives
  · rintro rfl
    exact arrivalOf_inbound s bytes now

theorem ne_of_arrivalOf_eq_none {s q : SessionId} {bytes : List UInt8} {now : Clock}
    (quiet : arrivalOf s (.inbound q bytes now) = none) : q ≠ s := by
  rintro rfl
  rw [arrivalOf_inbound] at quiet
  cases quiet

def EndsRelay (s : SessionId) (name : String) (server : Server) (e : Event) : Prop :=
  ∃ c seq task, server.connections s = some c ∧ AList.lookup name c.relayTasks = some seq ∧
    AList.lookup seq c.tasks = some task ∧ e = .relayRecv s seq ∧
    (server.ctx.channelRouter.receive task.source ⟨s, seq⟩ task.next).isOver = true

structure KeepsRelays (c c' : Connection) : Prop where
  tenant : c'.authenticatedTenant = c.authenticatedTenant
  relays : ∀ name, relayed c' name = relayed c name

/-- What an event that brings no frame of the session makes of its connection. -/
inductive Idles (server : Server) (s : SessionId) : Event → Connection → Connection → Prop
  | keeps {e c c'} : (∀ name, ¬ EndsRelay s name server e) → KeepsRelays c c' → Idles server s e c c'
  | ended {seq c task} : server.connections s = some c → AList.lookup seq c.tasks = some task →
      (server.ctx.channelRouter.receive task.source ⟨s, seq⟩ task.next).isOver = true →
      Idles server s (.relayRecv s seq) c { c with tasks := AList.erase seq c.tasks }

section
variable {env : Env} {server server' : Server} {s : SessionId} {c c' : Connection} {e : Event}

theorem KeepsRelays.refl (c : Connection) : KeepsRelays c c := ⟨rfl, fun _ => rfl⟩

theorem KeepsRelays.of_sameTasks (tenant : c'.authenticatedTenant = c.authenticatedTenant)
    (names : c'.relayTasks = c.relayTasks) (tasks : SameTasks c.tasks c'.tasks) : KeepsRelays c c' :=
  ⟨tenant, fun name => relayed_congr (by rw [names]) tasks⟩

theorem relayed_erase (c : Connection) (seq : Nat) (name : String) :
    relayed { c with tasks := AList.erase seq c.tasks } name =
      if AList.lookup name c.relayTasks = some seq then none else relayed c name := by
  simp only [relayed, relayAt]
  cases AList.lookup name c.relayTasks with
  | none => rfl
  | some other =>
      by_cases same : other = seq
      · subst same
        rw [Option.bind_some, AList.lookup_erase, if_pos rfl]
        rfl
      · rw [Option.bind_some, AList.lookup_erase_ne same, if_neg fun equal => same (Option.some.inj equal)]
        rfl

theorem idles_of_apart {q : SessionId} (ctx : RealtimeContext) (d : Connection) (apart : s ≠ q)
    (there : server.connections s = some c)
    (found : ((server.setCtx ctx).setConnection q d).connections s = some c')
    (other : ∀ seq, e ≠ .relayRecv s seq) : Idles server s e c c' := by
  rw [connections_setConnection, if_neg apart, setCtx_connections, there, Option.some.injEq] at found
  subst found
  refine .keeps ?_ (.refl c)
  rintro name ⟨_, seq, _, _, _, _, same, _⟩
  exact other seq same

theorem idles_step (wired : Wired c) (taken : step env server e = some server')
    (there : server.connections s = some c) (found : server'.connections s = some c')
    (isOpen : c'.isOpen = true) (quiet : arrivalOf s e = none) : Idles server s e c c' := by
  have still : (∀ seq, e ≠ .relayRecv s seq) → server'.connections = server.connections →
      Idles server s e c c' := by
    intro other same
    rw [same, there, Option.some.injEq] at found
    subst found
    refine .keeps ?_ (.refl c)
    rintro name ⟨_, seq, _, _, _, _, receives, _⟩
    exact other seq receives
  cases step_cases taken with
  | connected fresh =>
      refine idles_of_apart _ _ ?_ there found (by rintro _ ⟨⟩)
      rintro rfl
      rw [fresh] at there
      cases there
  | handled => exact idles_of_apart _ _ (ne_of_arrivalOf_eq_none quiet).symm there found (by rintro _ ⟨⟩)
  | received holds running free got =>
      rename_i q seq d task m
      by_cases own : s = q
      · subst own
        obtain rfl := Option.some.inj (there.symm.trans holds)
        rw [connections_setConnection_self, Option.some.injEq] at found
        subst found
        refine .keeps ?_ (.of_sameTasks rfl rfl (sameTasks_insert running rfl rfl))
        rintro name ⟨d, other, task', holds', _, running', same, ending⟩
        cases same
        obtain rfl := Option.some.inj (there.symm.trans holds')
        obtain rfl := Option.some.inj (running.symm.trans running')
        rw [got] at ending
        cases ending
      · exact idles_of_apart server.ctx _ own there found (by rintro _ ⟨⟩; exact own rfl)
  | ended holds running ending =>
      rename_i q seq d task
      by_cases own : s = q
      · subst own
        obtain rfl := Option.some.inj (there.symm.trans holds)
        rw [connections_dropTask, Option.some.injEq] at found
        subst found
        exact .ended there running ending
      · exact idles_of_apart _ _ own there found (by rintro _ ⟨⟩; exact own rfl)
  | queued holds running holding alive room =>
      rename_i q seq d task m
      by_cases own : s = q
      · subst own
        obtain rfl := Option.some.inj (there.symm.trans holds)
        rw [connections_setConnection_self, Option.some.injEq] at found
        subst found
        exact .keeps (by rintro name ⟨_, _, _, _, _, _, ⟨⟩, _⟩)
          (.of_sameTasks rfl rfl (sameTasks_insert running rfl rfl))
      · exact idles_of_apart server.ctx _ own there found (by rintro _ ⟨⟩)
  | orphaned holds running shut =>
      rename_i q seq d task
      refine idles_of_apart _ _ ?_ there found (by rintro _ ⟨⟩)
      rintro rfl
      obtain rfl := Option.some.inj (there.symm.trans holds)
      rw [connections_dropTask, Option.some.injEq] at found
      subst found
      rw [shut] at isOpen
      cases isOpen
  | replayed holds pending alive room =>
      rename_i q d m rest
      by_cases own : s = q
      · subst own
        obtain rfl := Option.some.inj (there.symm.trans holds)
        rw [connections_setConnection_self, Option.some.injEq] at found
        subst found
        exact .keeps (by rintro name ⟨_, _, _, _, _, _, ⟨⟩, _⟩) (.of_sameTasks rfl rfl fun _ => rfl)
      · exact idles_of_apart server.ctx _ own there found (by rintro _ ⟨⟩)
  | wrote ready queue =>
      rename_i q d item rest
      by_cases own : s = q
      · subst own
        obtain rfl := Option.some.inj (there.symm.trans (waiting_eq_some ready).1)
        rw [connections_setConnection_self, Option.some.injEq] at found
        subst found
        exact .keeps (by rintro name ⟨_, _, _, _, _, _, ⟨⟩, _⟩) (.of_sameTasks rfl rfl fun _ => rfl)
      · exact idles_of_apart server.ctx _ own there found (by rintro _ ⟨⟩)
  | closed ready =>
      rename_i q now d
      refine idles_of_apart _ _ ?_ there found (by rintro _ ⟨⟩)
      rintro rfl
      rw [connections_setConnection_self, Option.some.injEq] at found
      subst found
      cases isOpen
  | dropped holds running aborted =>
      rename_i q seq d task
      by_cases own : s = q
      · subst own
        obtain rfl := Option.some.inj (there.symm.trans holds)
        rw [connections_dropTask, Option.some.injEq] at found
        subst found
        refine .keeps (by rintro name ⟨_, _, _, _, _, _, ⟨⟩, _⟩) ⟨rfl, fun name => ?_⟩
        -- A task that stands under a name of an open connection is not aborted.
        have unnamed : AList.lookup name c.relayTasks ≠ some seq := by
          intro named
          rw [wired.running isOpen name seq task named running] at aborted
          cases aborted
        rw [relayed_erase, if_neg unnamed]
      · exact idles_of_apart _ _ own there found (by rintro _ ⟨⟩)
  | _ => exact still (by rintro _ ⟨⟩) rfl

theorem relayed_idles (idles : Idles server s e c c') (there : server.connections s = some c) :
    c'.authenticatedTenant = c.authenticatedTenant ∧ ∀ name,
      (relayed c' name).isSome = true ↔ (relayed c name).isSome = true ∧ ¬ EndsRelay s name server e := by
  cases idles with
  | keeps lasts keeps =>
      refine ⟨keeps.tenant, fun name => ?_⟩
      rw [keeps.relays, and_iff_left (lasts name)]
  | ended holds running ending =>
      rename_i seq task
      refine ⟨rfl, fun name => ?_⟩
      rw [relayed_erase]
      by_cases named : AList.lookup name c.relayTasks = some seq
      · have ends : EndsRelay s name server (.relayRecv s seq) := ⟨c, seq, task, there, named, running, rfl, ending⟩
        simp [named, ends]
      · have lasts : ¬ EndsRelay s name server (.relayRecv s seq) := by
          rintro ⟨d, other, _, holds', named', _, same, _⟩
          cases same
          obtain rfl := Option.some.inj (there.symm.trans holds')
          exact named named'
        rw [if_neg named, and_iff_left lasts]

theorem relayed_of_endsRelay {name : String} (ends : EndsRelay s name server e)
    (there : server.connections s = some c) : (relayed c name).isSome = true := by
  obtain ⟨d, seq, task, found, named, running, -, -⟩ := ends
  obtain rfl := Option.some.inj (there.symm.trans found)
  simp [relayed, relayAt, named, running]

theorem isOpen_of_moved (moved : Moved env server s e c c') (isOpen : c'.isOpen = true) : c.isOpen = true := by
  cases moved with
  | still => exact isOpen
  | handled handles => exact (waiting_eq_some handles.ready).2.1
  | received => exact isOpen
  | ended => exact isOpen
  | queued => exact isOpen
  | replayed => exact isOpen
  | wrote => exact isOpen
  | closed => cases isOpen

theorem moved_of_found (taken : step env server e = some server') (there : server.connections s = some c)
    (found : server'.connections s = some c') : Moved env server s e c c' := by
  rcases step_moved taken found with ⟨_, _, fresh, _⟩ | ⟨d, holds, moved⟩
  · rw [fresh] at there
    cases there
  · obtain rfl := Option.some.inj (there.symm.trans holds)
    exact moved

theorem relayed_spawned (wired : Wired c) (name : String) (source : Source) (key : String) :
    (relayed (c.spawnRelay name source false) key).isSome = true ↔ (relayed c key).isSome = true ∨ key = name := by
  rw [relayed_spawnRelay wired.numbered]
  by_cases own : key = name <;> simp [own]

theorem relayed_subscribe {bytes : List UInt8} {now : Clock} {frame : Frame} (wired : Wired c)
    (taken : step env server (.inbound s bytes now) = some server') (there : server.connections s = some c)
    (read : parseInbound c.transport bytes = some (.ok frame)) (opcode : frame.opcode = .subscribe) :
    ∃ c', server'.connections s = some c' ∧ c'.authenticatedTenant = c.authenticatedTenant ∧
      ∀ name, (relayed c' name).isSome = true ↔ (relayed c name).isSome = true ∨ name = frame.channelId ∧
        c.authenticatedTenant = some frame.tenantId ∧
        (server.ctx.rateLimiter.check s frame.tenantId now.instant).1 = true := by
  obtain ⟨d, ready, outcome⟩ := inbound_cases taken
  obtain rfl := Option.some.inj (there.symm.trans (waiting_eq_some ready).1)
  rw [read] at outcome
  rcases outcome with ⟨err, failed, _⟩ | ⟨frame', parsed, outcome⟩
  · cases failed
  obtain rfl := Except.ok.inj (Option.some.inj parsed)
  have other : frame.opcode ≠ .auth := by
    rw [opcode]
    decide
  rcases outcome with ⟨stopped, rfl⟩ | ⟨command, tenant, ctx, handles, rfl⟩
  · refine ⟨c, there, rfl, fun name => ?_⟩
    simp [stopped]
  refine ⟨_, connections_setConnection_self s _ _, ?_⟩
  have executed := handles.executed
  by_cases owned : c.authenticatedTenant = some frame.tenantId
  · have spawned : ∀ source, react frame (.subscribed frame.channelId source)
        (returned env server s now c frame (some frame.tenantId)) = c.spawnRelay frame.channelId source false := by
      intro source
      rw [← owned, returned_eq other]
      simp only [react, opcode]
      rfl
    simp only [handles.allowed, and_true, owned]
    rw [owned] at executed
    cases pattern : isPattern frame.channelId with
    | true =>
        rw [executeInner_pattern _ _ _ _ frame now _ opcode pattern] at executed
        cases executed
        rw [spawned]
        exact ⟨owned, relayed_spawned wired _ _⟩
    | false =>
        rw [executeInner_exact _ _ _ _ frame now _ opcode pattern] at executed
        cases executed
        rw [spawned]
        exact ⟨owned, relayed_spawned wired _ _⟩
  · have nobody : ownTenant c.authenticatedTenant frame = none := by
      rw [ownTenant, Option.filter_eq_none_iff]
      intro found same
      rw [same] at owned
      simpa using owned
    have ignored := executeInner_foreign env.codec server.redis s ⟨s, c.spawned⟩ c.authenticatedTenant frame now
      (charged s frame now server.ctx) nobody other (by rw [opcode]; decide)
    rw [executed] at ignored
    cases ignored
    rw [returned_eq other]
    refine ⟨rfl, fun name => ?_⟩
    simp only [owned, false_and, and_false, or_false]
    exact Iff.rfl

theorem perSession_step (taken : step env server e = some server') (quiet : arrivalOf s e = none) :
    server'.ctx.rateLimiter.perSession s = server.ctx.rateLimiter.perSession s ∨
      server'.ctx.rateLimiter.perSession s = none ∧ server'.closed s = true := by
  have ledger := step_ledger taken
  have after : ∀ l : Ledger, Ledger.step env server.ledger e = some l → l = server.ledger.after env e := by
    intro l became
    cases e with
    | inbound q bytes now =>
        simp only [Ledger.step] at became
        split at became
        · cases became
        · exact (Option.some.inj became).symm
    | _ => exact (Option.some.inj became).symm
  have same := after _ ledger
  have limiter : server'.ctx.rateLimiter = (server.ledger.after env e).rateLimiter := congrArg Ledger.rateLimiter same
  have shut : server'.closed = (server.ledger.after env e).closed := congrArg Ledger.closed same
  rw [limiter, shut]
  clear after same limiter shut ledger taken
  cases e with
  | inbound q bytes now =>
      have apart : s ≠ q := (ne_of_arrivalOf_eq_none quiet).symm
      left
      show (server.ledger.arrive env q bytes now).rateLimiter.perSession s = _
      unfold Ledger.arrive Ledger.frame Ledger.settle
      cases Frame.parseSlice bytes with
      | error err => rfl
      | ok frame =>
          have charged : ((server.ledger.rateLimiter.check q frame.tenantId now.instant).2).perSession s =
              server.ctx.rateLimiter.perSession s := Function.update_of_ne apart _ _
          dsimp only
          split
          · split
            · exact (Function.update_of_ne apart _ _).trans charged
            · exact charged
          · exact charged
  | disconnect q now =>
      by_cases own : s = q
      · subst own
        exact Or.inr ⟨Function.update_self .., Function.update_self ..⟩
      · exact Or.inl (Function.update_of_ne own _ _)
  | http request now =>
      left
      show (server.ledger.http env request now).rateLimiter.perSession s = _
      unfold Ledger.http
      dsimp only
      split
      · split <;> rfl
      · rfl
  | admin op => cases op <;> exact Or.inl rfl
  | _ => exact Or.inl rfl

theorem Ledger.rejects_of_ne {auth : TokenService} {frame : Frame} {now : Clock} (opcode : frame.opcode ≠ .auth) :
    Ledger.rejects env auth frame now = false := by
  simp [Ledger.rejects, opcode]

theorem perSession_inbound {bytes : List UInt8} {now : Clock} {frame : Frame}
    (taken : step env server (.inbound s bytes now) = some server') (parsed : Frame.parseSlice bytes = .ok frame)
    (keeps : Ledger.rejects env server.ctx.auth frame now = false) :
    server'.ctx.rateLimiter.perSession s = some (server.ctx.rateLimiter.sessionTry s frame.tenantId now.instant).2 := by
  have ledger := step_ledger taken
  simp only [Ledger.step] at ledger
  split at ledger
  · cases ledger
  have limiter : server'.ctx.rateLimiter = (server.ledger.arrive env s bytes now).rateLimiter :=
    congrArg Ledger.rateLimiter (Option.some.inj ledger).symm
  have charged : (server.ledger.rateLimiter.check s frame.tenantId now.instant).2.perSession s =
      some (server.ctx.rateLimiter.sessionTry s frame.tenantId now.instant).2 := Function.update_self ..
  have kept : Ledger.rejects env (server.ledger.charge s frame.tenantId now).auth frame now = false := keeps
  rw [limiter, Ledger.arrive, parsed, ← charged]
  dsimp only [Ledger.frame, Ledger.settle]
  split
  · rw [if_neg (by rw [kept]; exact Bool.false_ne_true)]
    rfl
  · rfl

end
end RealtimePlatform.Backend
