import RealtimePlatform.Backend.Publications
import RealtimePlatform.Proof.RelayLag

namespace RealtimePlatform.Proof.Transcript
open Library Backend Backend.Server Backend.UseCases Backend.Connection
open RelayLag (forwarded Accounted accounted_step accounted_run Holds)

def isRelayed (item : Queued) : Bool :=
  match item.via with
  | .relay _ => true
  | .replay => false

/-- What was relayed of what has been written. -/
def relayedOf (out : List Outgoing) : List Queued :=
  out.filterMap fun
    | .relayed item => if isRelayed item then some item else none
    | _ => none

def relayedTo (s : SessionId) (server : Server) : Event → Option (Nat × Queued)
  | .relaySend q seq =>
    if q = s then
      ((server.connections s).filter (·.isOpen)).bind fun c => (AList.lookup seq c.tasks).bind
        fun task => task.inFlight.map fun m => (seq, ⟨m, .relay task.source⟩)
    else none
  | _ => none

theorem mem_relayedOf {out : List Outgoing} {item : Queued} (written : .relayed item ∈ out)
    (relayed : isRelayed item = true) : item ∈ relayedOf out :=
  List.mem_filterMap.mpr ⟨_, written, if_pos relayed⟩

theorem relayedOf_append (out more : List Outgoing) :
    relayedOf (out ++ more) = relayedOf out ++ relayedOf more := List.filterMap_append

def Tells (told : List Queued) (c : Connection) : Prop :=
  ∃ rest, told = relayedOf c.written ++ rest ∧ (c.isOpen = true → rest = c.outQueue.filter isRelayed)

structure Transcribed (told : SessionId → List (Nat × Queued)) (server : Server) : Prop where
  tells : ∀ s c, server.connections s = some c → Tells ((told s).map (·.2)) c
  fresh : ∀ s, server.connections s = none → told s = []

section
variable {told : List Queued} {c c' : Connection}

theorem Tells.of_eq (tells : Tells told c) (written : relayedOf c'.written = relayedOf c.written)
    (queue : c'.outQueue.filter isRelayed = c.outQueue.filter isRelayed) (isOpen : c'.isOpen = c.isOpen) :
    Tells told c' := by
  obtain ⟨rest, same, waits⟩ := tells
  refine ⟨rest, by rw [written, same], fun nowOpen => ?_⟩
  rw [queue]
  exact waits (isOpen ▸ nowOpen)

theorem Tells.shut (tells : Tells told c) (written : relayedOf c'.written = relayedOf c.written)
    (closed : c'.isOpen = false) : Tells told c' := by
  obtain ⟨rest, same, _⟩ := tells
  refine ⟨rest, by rw [written, same], fun isOpen => ?_⟩
  rw [closed] at isOpen
  cases isOpen

theorem Tells.react (tells : Tells told c) (frame : Frame) (command : FrameCommand) :
    Tells told (react frame command c) := by
  cases command with
  | closeAuthFailed =>
      refine tells.shut ?_ rfl
      show relayedOf (c.written ++ farewell c.transport) = _
      rw [relayedOf_append]
      cases c.transport <;> simp [relayedOf, farewell]
  | none =>
      refine tells.of_eq ?_ rfl rfl
      show relayedOf (c.written ++ pong c.transport frame c.authenticatedTenant) = _
      rw [relayedOf_append]
      unfold pong
      split <;> simp [relayedOf]
  | _ => exact tells.of_eq rfl rfl rfl

theorem Tells.queued (tells : Tells told c) (isOpen : c.isOpen = true) {m : Message} {source : Source}
    (written : c'.written = c.written) (queue : c'.outQueue = c.outQueue ++ [⟨m, .relay source⟩]) :
    Tells (told ++ [⟨m, .relay source⟩]) c' := by
  obtain ⟨rest, same, waits⟩ := tells
  refine ⟨rest ++ [⟨m, .relay source⟩], by rw [written, same, List.append_assoc], fun _ => ?_⟩
  rw [queue, List.filter_append, waits isOpen]
  rfl

theorem Tells.wrote (tells : Tells told c) {item : Queued} {rest : List Queued}
    (isOpen : c.isOpen = true) (queue : c.outQueue = item :: rest) :
    Tells told ({ c with outQueue := rest }.write [.relayed item]) := by
  obtain ⟨pending, same, waits⟩ := tells
  have first := waits isOpen
  rw [queue] at first
  refine ⟨rest.filter isRelayed, ?_, fun _ => rfl⟩
  show told = relayedOf (c.written ++ [.relayed item]) ++ _
  rw [same, relayedOf_append, first]
  cases kind : isRelayed item <;> simp [relayedOf, kind]

end

section
variable {env : Env} {server server' : Server} {told : SessionId → List (Nat × Queued)}

theorem transcribed_set (transcribed : Transcribed told server) (ctx : RealtimeContext) {s : SessionId}
    {c' : Connection} {told' : SessionId → List (Nat × Queued)} (others : ∀ q, q ≠ s → told' q = told q)
    (own : Tells ((told' s).map (·.2)) c') :
    Transcribed told' ((server.setCtx ctx).setConnection s c') where
  tells q c found := by
    rw [connections_setConnection, setCtx_connections] at found
    split at found
    · rename_i here
      cases found
      exact here ▸ own
    · rename_i apart
      rw [others q apart]
      exact transcribed.tells q c found
  fresh q missing := by
    rw [connections_setConnection, setCtx_connections] at missing
    split at missing
    · cases missing
    · rename_i apart
      rw [others q apart]
      exact transcribed.fresh q missing

theorem transcribed_step {e : Event} (transcribed : Transcribed told server)
    (taken : step env server e = some server') :
    Transcribed (fun s => told s ++ (relayedTo s server e).toList) server' := by
  have quiet : (∀ s, relayedTo s server e = none) →
      (fun s => told s ++ (relayedTo s server e).toList) = told := by
    intro silent
    funext s
    rw [silent, Option.toList_none, List.append_nil]
  have kept : ∀ {s : SessionId} {c : Connection}, server.connections s = some c →
      Tells ((told s).map (·.2)) c := fun there => transcribed.tells _ _ there
  cases step_cases taken with
  | connected fresh =>
      rw [quiet fun _ => rfl]
      refine transcribed_set transcribed _ (fun _ _ => rfl) ?_
      rw [transcribed.fresh _ fresh]
      exact ⟨[], rfl, fun _ => rfl⟩
  | handled handles =>
      rw [quiet fun _ => rfl]
      rename_i s bytes now c frame command tenant ctx
      have returned : Tells ((told s).map (·.2)) (returned env server s now c frame tenant) :=
        (kept (waiting_eq_some handles.ready).1).of_eq rfl rfl rfl
      exact transcribed_set transcribed _ (fun _ _ => rfl) (returned.react frame command)
  | received there =>
      rw [quiet fun _ => rfl]
      exact transcribed_set transcribed server.ctx (fun _ _ => rfl) ((kept there).of_eq rfl rfl rfl)
  | ended there | dropped there =>
      rw [quiet fun _ => rfl]
      exact transcribed_set transcribed _ (fun _ _ => rfl) ((kept there).of_eq rfl rfl rfl)
  | orphaned there running shut =>
      rename_i s seq c task
      have silent : ∀ q, relayedTo q server (.relaySend s seq) = none := by
        intro q
        simp only [relayedTo]
        split
        · rename_i same
          subst same
          simp [there, shut]
        · rfl
      rw [quiet silent]
      exact transcribed_set transcribed _ (fun _ _ => rfl) ((kept there).of_eq rfl rfl rfl)
  | queued there running holding isOpen =>
      rename_i s seq c task m room
      refine transcribed_set transcribed server.ctx (fun q apart => ?_) ?_
      · simp only [relayedTo, if_neg (Ne.symm apart), Option.toList_none, List.append_nil]
      · have marks : relayedTo s server (.relaySend s seq) = some (seq, ⟨m, .relay task.source⟩) := by
          simp only [relayedTo, if_true]
          rw [there, Option.filter_some, if_pos isOpen, Option.bind_some, running,
            Option.bind_some, holding, Option.map_some]
        simp only [marks, Option.toList_some, List.map_append, List.map_cons, List.map_nil]
        exact (kept there).queued isOpen rfl rfl
  | replayed there =>
      rw [quiet fun _ => rfl]
      refine transcribed_set transcribed server.ctx (fun _ _ => rfl) ((kept there).of_eq rfl ?_ rfl)
      rw [List.filter_append]
      exact List.append_nil _
  | wrote ready queue =>
      rw [quiet fun _ => rfl]
      obtain ⟨there, isOpen, _⟩ := waiting_eq_some ready
      exact transcribed_set transcribed server.ctx (fun _ _ => rfl) ((kept there).wrote isOpen queue)
  | closed ready =>
      rw [quiet fun _ => rfl]
      refine transcribed_set transcribed _ (fun _ _ => rfl) ?_
      exact (kept (waiting_eq_some ready).1).shut rfl rfl
  | _ =>
      rw [quiet fun _ => rfl]
      exact ⟨transcribed.tells, transcribed.fresh⟩

end

def Logged (r : ChannelRouterService Message) : Prop :=
  ∀ source rx log, r.sent source rx = some log → ∀ m ∈ log, ∃ entry ∈ r.journal, entry.2.1 = m

theorem Logged.of_sent {r r' : ChannelRouterService Message} (logged : Logged r)
    (journal : r'.journal = r.journal)
    (sent : ∀ source rx log, r'.sent source rx = some log → log = [] ∨ r.sent source rx = some log) :
    Logged r' := by
  intro source rx log found m member
  rw [journal]
  rcases sent source rx log found with rfl | older
  · cases member
  · exact logged source rx log older m member

theorem Logged.routed {r r' : ChannelRouterService Message} (logged : Logged r) (routed : Routed r r') :
    Logged r' := by
  induction routed with
  | refl => exact logged
  | trans _ _ first second => exact second (first logged)
  | attach r key rx =>
      refine logged.of_sent rfl fun source q log found => ?_
      rw [r.sent_attach] at found
      split at found
      · exact Or.inl (Option.some.inj found).symm
      · exact Or.inr found
  | subscribeWildcard r tenantId pattern rx =>
      refine logged.of_sent rfl fun source q log found => ?_
      rw [r.sent_subscribeWildcard] at found
      split at found
      · exact Or.inl (Option.some.inj found).symm
      · exact Or.inr found
  | publish r tenantId key frame nowSecs =>
      intro source rx log found m member
      obtain ⟨entries, journal, sent⟩ :=
        @Follows.of_broadcasts rx r _ (.publish r tenantId key frame nowSecs)
      rw [sent] at found
      obtain ⟨older, there, rfl⟩ := Option.map_eq_some_iff.mp found
      rw [journal]
      rcases List.mem_append.mp member with before | new
      · obtain ⟨entry, recorded, same⟩ := logged source rx older there m before
        exact ⟨entry, List.mem_append_left _ recorded, same⟩
      · obtain ⟨entry, recorded, same⟩ := List.mem_map.mp new
        exact ⟨entry, List.mem_append_right _ (List.mem_filter.mp recorded).1, same⟩
  | replay r redis tenantId key since =>
      refine logged.of_sent (journal_replay redis tenantId key since r) fun source q log found => ?_
      rw [r.sent_replay] at found
      exact Or.inr found
  | pruneEmpty r key =>
      refine logged.of_sent rfl fun source q log found => ?_
      rw [r.sent_pruneEmpty] at found
      exact Or.inr found
  | pruneDeadWildcards r =>
      refine logged.of_sent rfl fun source q log found => ?_
      rw [r.sent_pruneDeadWildcards] at found
      exact Or.inr found
  | detach r source rx =>
      refine logged.of_sent (by cases source <;> rfl) fun other q log found => ?_
      rw [r.sent_detach] at found
      split at found
      · cases found
      · exact Or.inr found
  | drained => exact logged.of_sent rfl fun _ _ _ => Or.inr

structure Rightly (r : ChannelRouterService Message) (item : Queued) : Prop where
  source : ∃ source, item.via = .relay source ∧ source.matches item.message.key = true
  published : ∃ entry ∈ r.journal, entry.2.1 = item.message

theorem Rightly.mono {r r' : ChannelRouterService Message} {item : Queued} (rightly : Rightly r item)
    (publishes : Publishes r r') : Rightly r' item := by
  obtain ⟨entries, journal, _⟩ := publishes
  obtain ⟨entry, recorded, same⟩ := rightly.published
  exact ⟨rightly.source, entry, journal ▸ List.mem_append_left _ recorded, same⟩

structure Told (told : SessionId → List (Nat × Queued)) (server : Server) : Prop where
  transcribed : Transcribed told server
  rightly : ∀ s, ∀ entry ∈ told s, Rightly server.ctx.channelRouter entry.2
  recorded : ∀ entry ∈ server.ctx.channelRouter.journal, Recorded entry
  logged : Logged server.ctx.channelRouter
  keyed : Keyed server.ctx.channelRouter
  accounted : ∃ put, Accounted put server

section
variable {env : Env} {server server' : Server} {told : SessionId → List (Nat × Queued)}

theorem relayedTo_eq_some {s : SessionId} {e : Event} {entry : Nat × Queued}
    (view : relayedTo s server e = some entry) :
    ∃ c task m, server.connections s = some c ∧ AList.lookup entry.1 c.tasks = some task ∧
      task.inFlight = some m ∧ entry.2 = ⟨m, .relay task.source⟩ := by
  cases e with
  | relaySend q seq =>
      simp only [relayedTo] at view
      split at view
      · obtain ⟨c, found, view⟩ := Option.bind_eq_some_iff.mp view
        obtain ⟨task, running, view⟩ := Option.bind_eq_some_iff.mp view
        obtain ⟨m, holding, rfl⟩ := Option.map_eq_some_iff.mp view
        exact ⟨c, task, m, (Option.filter_eq_some_iff.mp found).1, running, holding, rfl⟩
      · cases view
  | _ => cases view

theorem told_step {e : Event} (before : Told told server) (taken : step env server e = some server') :
    Told (fun s => told s ++ (relayedTo s server e).toList) server' where
  transcribed := transcribed_step before.transcribed taken
  rightly s entry member := by
    rcases List.mem_append.mp member with older | new
    · exact (before.rightly s entry older).mono (step_publishes taken)
    · rw [Option.mem_toList] at new
      obtain ⟨c, task, m, there, running, holding, same⟩ := relayedTo_eq_some new
      obtain ⟨put, accounted⟩ := before.accounted
      obtain ⟨log, attached, _, taken'⟩ := (accounted.serves s c there entry.1 task running).2
      have inside : m ∈ log := by
        have last : m ∈ log.take task.next := by
          rw [← taken', holding]
          exact List.mem_append_right _ (by simp)
        exact List.mem_of_mem_take last
      have rightly : Rightly server.ctx.channelRouter entry.2 := by
        rw [same]
        exact ⟨⟨_, rfl, before.keyed.sent _ _ log attached m inside⟩,
          before.logged _ _ log attached m inside⟩
      exact rightly.mono (step_publishes taken)
  recorded := by
    obtain ⟨entries, journal, recorded⟩ := step_publishes taken
    rw [journal]
    intro entry member
    rcases List.mem_append.mp member with older | new
    · exact before.recorded entry older
    · exact recorded entry new
  logged := before.logged.routed (step_routed taken)
  keyed := (step_routed taken).keyed before.keyed
  accounted := by
    obtain ⟨put, accounted⟩ := before.accounted
    exact ⟨_, accounted_step accounted taken⟩

def transcript (env : Env) (first : Server) (es : List Event) (s : SessionId) : List (Nat × Queued) :=
  (step env).observed (relayedTo s) first es

theorem transcript_append {first : Server} {es ds : List Event} (s : SessionId)
    (reached : (step env).run first es = some server) :
    transcript env first (es ++ ds) s = transcript env first es s ++ transcript env server ds s :=
  Step.observed_append _ reached

theorem transcript_single (s : SessionId) (server : Server) (e : Event) :
    transcript env server [e] s = (relayedTo s server e).toList := by
  simp only [transcript, Step.observed]
  cases step env server e <;> simp

theorem told_start (config : RateLimitConfig) (timeout : Nat) (hasRedis hasWebPush : Bool) :
    Told (fun _ => []) (start config timeout hasRedis hasWebPush) where
  transcribed := by
    constructor
    · intro s c found
      cases found
    · intro s _
      rfl
  rightly s entry member := by cases member
  recorded entry member := by cases hasRedis <;> cases member
  logged source rx log found := by cases hasRedis <;> cases source <;> cases found
  keyed := by
    refine ⟨fun source rx log found => ?_, fun key e member => ?_, fun port found pair member => ?_⟩
    · cases hasRedis <;> cases source <;> cases found
    · cases hasRedis <;> cases member
    · cases hasRedis <;> cases found
      cases member
  accounted := by
    refine ⟨fun _ _ => [], fun s c found => ?_, fun _ _ _ => rfl⟩
    cases found

theorem told_run {config : RateLimitConfig} {timeout : Nat} {hasRedis hasWebPush : Bool}
    {es : List Event}
    (reached : (step env).run (start config timeout hasRedis hasWebPush) es = some server) :
    Told (transcript env (start config timeout hasRedis hasWebPush) es) server := by
  refine Step.run_induction
    (fun ds t => Told (transcript env (start config timeout hasRedis hasWebPush) ds) t)
    (told_start config timeout hasRedis hasWebPush) (fun ds t e u before held taken => ?_) reached
  have appended : transcript env (start config timeout hasRedis hasWebPush) (ds ++ [e]) =
      fun s => transcript env (start config timeout hasRedis hasWebPush) ds s ++
        (relayedTo s t e).toList := by
    funext s
    rw [transcript_append s before, transcript_single]
  rw [appended]
  exact told_step held taken

theorem rightly_of_written {config : RateLimitConfig} {timeout : Nat} {hasRedis hasWebPush : Bool}
    {es : List Event} {s : SessionId} {c : Connection} {item : Queued}
    (reached : (step env).run (start config timeout hasRedis hasWebPush) es = some server)
    (there : server.connections s = some c) (written : .relayed item ∈ c.written)
    (relayed : isRelayed item = true) :
    Rightly server.ctx.channelRouter item ∧ ∃ frame : Frame, item.message.frame = frame.raw ∧
      Carried frame item.message.key := by
  have told := told_run reached
  obtain ⟨rest, same, _⟩ := told.transcribed.tells s c there
  have listed : item ∈ (transcript env (start config timeout hasRedis hasWebPush) es s).map (·.2) := by
    rw [same]
    exact List.mem_append_left _ (mem_relayedOf written relayed)
  obtain ⟨entry, member, rfl⟩ := List.mem_map.mp listed
  have rightly := told.rightly s entry member
  obtain ⟨publication, recorded, message⟩ := rightly.published
  obtain ⟨key, frame, raw, carried⟩ := told.recorded publication recorded
  rw [message] at key raw
  exact ⟨rightly, frame, raw, key ▸ carried⟩

end

end RealtimePlatform.Proof.Transcript
