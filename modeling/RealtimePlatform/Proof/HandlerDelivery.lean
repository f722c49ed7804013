import RealtimePlatform.Proof.RelayCount
import RealtimePlatform.Proof.HandlerMatching
import Mathlib.Data.List.Dedup

namespace RealtimePlatform.Proof.HandlerDelivery
open Library Utf16 Backend Backend.Server Backend.UseCases Backend.Connection Sdk Transcript
open RelayLag (forwarded accounted_run pending takenBy sentBy run_forwarded receive_first)
open HandlerMatching (Heard Plain asRead_eq_iff asRead_of_plain callsOf_pos_iff)

section
variable {env : Env} {config : RateLimitConfig} {timeout : Nat} {hasRedis hasWebPush : Bool}
  {before es : List Event} {first server : Server} {s : SessionId} {c₀ c : Connection}

theorem forwarded_eq (s : SessionId) (seq : Nat) (server : Server) (e : Event) :
    forwarded s seq server e = (relayedTo s server e).bind fun entry =>
      if entry.1 = seq then some entry.2.message else none := by
  cases e with
  | relaySend q n =>
      by_cases own : q = s
      · subst own
        simp only [forwarded, relayedTo, true_and, if_true]
        cases (server.connections q).filter (·.isOpen) with
        | none => by_cases same : n = seq <;> simp [same]
        | some c =>
            cases there : AList.lookup n c.tasks with
            | none =>
                by_cases same : n = seq
                · subst same
                  simp [there]
                · simp [same, there]
            | some task =>
                by_cases same : n = seq
                · subst same
                  cases holding : task.inFlight <;> simp [there, holding]
                · cases holding : task.inFlight <;> simp [same, there, holding]
      · simp [forwarded, relayedTo, own]
  | _ => rfl

theorem observed_forwarded (s : SessionId) (seq : Nat) (first : Server) (es : List Event) :
    (step env).observed (forwarded s seq) first es = (transcript env first es s).filterMap fun entry =>
      if entry.1 = seq then some entry.2.message else none := by
  have views : forwarded s seq = fun t e => (relayedTo s t e).bind fun entry =>
      if entry.1 = seq then some entry.2.message else none := by
    funext t e
    exact forwarded_eq s seq t e
  rw [views]
  exact Step.observed_filterMap ..

theorem forwarded_since
    (begun : (step env).run (start config timeout hasRedis hasWebPush) before = some first)
    (reached : (step env).run first es = some server)
    (there₀ : first.connections s = some c₀) (there : server.connections s = some c)
    {seq : Nat} {task₀ task : RelayTask} (held : AList.lookup seq c₀.tasks = some task₀)
    (running : AList.lookup seq c.tasks = some task) (same : task₀.source = task.source)
    {entries : List (ChannelKey × Message × Nat)}
    (sent : server.ctx.channelRouter.sent task.source ⟨s, seq⟩ =
      (first.ctx.channelRouter.sent task.source ⟨s, seq⟩).map (· ++ passed task.source entries)) :
    ∃ log₀ log, first.ctx.channelRouter.sent task.source ⟨s, seq⟩ = some log₀ ∧
      server.ctx.channelRouter.sent task.source ⟨s, seq⟩ = some log ∧
      (step env).observed (forwarded s seq) first es ++ pending task log =
        pending task₀ log₀ ++ passed task.source entries := by
  have all := Step.run_append_iff.mpr ⟨first, begun, reached⟩
  have early := (((accounted_run begun).serves s c₀ there₀ seq task₀ held).2).pending
  have late := (((accounted_run all).serves s c there seq task running).2).pending
  obtain ⟨log₀, attached₀, account₀⟩ := early
  obtain ⟨log, attached, account⟩ := late
  rw [same] at attached₀
  rw [attached₀, Option.map_some, attached, Option.some.injEq] at sent
  refine ⟨log₀, log, attached₀, attached, ?_⟩
  apply List.append_cancel_left
  rw [← List.append_assoc, ← List.append_assoc, account₀, ← Step.observed_append _ begun, account, sent]

/-- The messages that have been published. -/
def publications (r : ChannelRouterService Message) : List Message := r.journal.map (·.2.1)

/-- Nothing that the session is to be told is left, its tasks are those it had, and all of them run. -/
structure Drained (s : SessionId) (c₀ c : Connection) (server : Server) : Prop where
  isOpen : c.isOpen = true
  spawned : c.spawned = c₀.spawned
  idle : ∀ seq, (AList.lookup seq c₀.tasks).isSome = true → ∃ task, AList.lookup seq c.tasks = some task ∧
    ∀ log, server.ctx.channelRouter.sent task.source ⟨s, seq⟩ = some log → pending task log = []
  written : c.outQueue = []

def matching (channel : ChannelKey) (c : Connection) : Nat :=
  c.tasks.entries.countP fun e => e.2.source.matches channel

theorem countP_passed {entries : List (ChannelKey × Message × Nat)} (source : Source) (m : Message)
    (keyed : ∀ entry ∈ entries, entry.2.1.key = entry.1) : (passed source entries).count m =
      if source.matches m.key then (entries.map (·.2.1)).count m else 0 := by
  induction entries with
  | nil => simp [passed]
  | cons entry entries ih =>
      have key := keyed entry List.mem_cons_self
      have rest := ih fun e member => keyed e (List.mem_cons_of_mem entry member)
      simp only [passed] at rest ⊢
      by_cases hit : source.matches entry.1 = true
      · rw [List.filter_cons, if_pos hit, List.map_cons, List.map_cons, List.count_cons, List.count_cons, rest]
        by_cases same : entry.2.1 = m
        · rw [← same, key, if_pos hit, if_pos hit]
        · simp [same]
      · rw [List.filter_cons, if_neg hit, List.map_cons, List.count_cons, rest]
        by_cases same : entry.2.1 = m
        · rw [← same, key, if_neg hit, if_neg hit]
        · simp [same]

theorem mem_publications_of_logged {r : ChannelRouterService Message} (logged : Logged r) {source : Source}
    {rx : ReceiverId} {log : List Message} (attached : r.sent source rx = some log) {m : Message}
    (member : m ∈ log) : m ∈ publications r := by
  obtain ⟨entry, recorded, rfl⟩ := logged source rx log attached m member
  exact List.mem_map_of_mem recorded

theorem count_messages (seq : Nat) (m : Message) (told : List (Nat × Queued)) :
    (told.filterMap fun entry => if entry.1 = seq then some entry.2.message else none).count m =
      (told.filter fun entry => entry.1 = seq).countP (fun entry => entry.2.message = m) := by
  induction told with
  | nil => rfl
  | cons entry told ih =>
      by_cases own : entry.1 = seq
      · simp [own, List.count_cons, List.countP_cons, ih]
      · simp [own, ih]

theorem count_forwarded
    (begun : (step env).run (start config timeout hasRedis hasWebPush) before = some first)
    (reached : (step env).run first es = some server)
    (there₀ : first.connections s = some c₀) (there : server.connections s = some c)
    (drained : Drained s c₀ c server) {m : Message} (fresh : m ∉ publications first.ctx.channelRouter)
    {seq : Nat} {task₀ : RelayTask} (held : AList.lookup seq c₀.tasks = some task₀) :
    ((transcript env first es s).filter fun entry => entry.1 = seq).countP (fun entry => entry.2.message = m) =
      if task₀.source.matches m.key then (publications server.ctx.channelRouter).count m else 0 := by
  obtain ⟨c', later⟩ := RelayCount.later_run begun reached there₀
  obtain rfl := Option.some.inj (there.symm.trans later.there)
  have below := (((accounted_run begun).serves s c₀ there₀ seq task₀ held).1)
  obtain ⟨task, running, quiet⟩ := drained.idle seq (Option.isSome_of_eq_some held)
  obtain ⟨task', held', same⟩ := later.continues.running seq task below running
  obtain rfl := Option.some.inj (held.symm.trans held')
  obtain ⟨entries, journal, sent⟩ := later.follows seq below (Option.isSome_of_eq_some running)
  obtain ⟨log₀, log, attached₀, attached, account⟩ :=
    forwarded_since begun reached there₀ there held running same (sent task.source)
  have told₀ := told_run begun
  have told := told_run (Step.run_append_iff.mpr ⟨first, begun, reached⟩)
  have unsent : (pending task₀ log₀).count m = 0 := by
    rw [List.count_eq_zero]
    intro member
    refine fresh (mem_publications_of_logged told₀.logged attached₀ ?_)
    have holds := (((accounted_run begun).serves s c₀ there₀ seq task₀ held).2).pending
    obtain ⟨log', attached', whole⟩ := holds
    rw [same, attached₀, Option.some.injEq] at attached'
    rw [attached', ← whole, ← attached']
    exact List.mem_append_right _ member
  have keyed : ∀ entry ∈ entries, entry.2.1.key = entry.1 := by
    intro entry member
    refine (told.recorded entry ?_).key
    rw [journal]
    exact List.mem_append_right _ member
  have total : (publications server.ctx.channelRouter).count m = (entries.map (·.2.1)).count m := by
    have none := List.count_eq_zero.mpr fresh
    rw [publications, journal, List.map_append, List.count_append]
    rw [publications] at none
    rw [none, Nat.zero_add]
  have counted := congrArg (List.count m) account
  rw [quiet log attached, List.append_nil, List.count_append, unsent, Nat.zero_add,
    countP_passed task.source m keyed, ← total, observed_forwarded, ← same] at counted
  rw [← counted, count_messages]

theorem countP_transcript
    (begun : (step env).run (start config timeout hasRedis hasWebPush) before = some first)
    (reached : (step env).run first es = some server)
    (there₀ : first.connections s = some c₀) (there : server.connections s = some c)
    (drained : Drained s c₀ c server) {m : Message} (fresh : m ∉ publications first.ctx.channelRouter) :
    (transcript env first es s).countP (fun entry => entry.2.message = m) =
      matching m.key c₀ * (publications server.ctx.channelRouter).count m := by
  obtain ⟨c', later⟩ := RelayCount.later_run begun reached there₀
  obtain rfl := Option.some.inj (there.symm.trans later.there)
  have within : ∀ entry ∈ transcript env first es s, entry.1 ∈ c₀.tasks.keys := by
    intro entry member
    obtain ⟨below, ran⟩ := later.ran entry member
    rw [drained.spawned] at below
    rw [← AList.mem_keys, ← AList.lookup_isSome]
    exact ran below
  have each : ∀ e ∈ c₀.tasks.entries,
      ((transcript env first es s).filter fun entry => entry.1 = e.1).countP
          (fun entry => entry.2.message = m) =
        if e.2.source.matches m.key then (publications server.ctx.channelRouter).count m else 0 := by
    intro e member
    exact count_forwarded begun reached there₀ there drained fresh (AList.mem_lookup_iff.mpr member)
  rw [countP_eq_sum_filter c₀.tasks.nodupKeys within, List.keys, List.map_map]
  have sums := List.map_congr_left each
  simp only [Function.comp_def]
  rw [sums, matching]
  generalize c₀.tasks.entries = tasks
  induction tasks with
  | nil => simp
  | cons e tasks ih =>
      rw [List.map_cons, List.sum_cons, ih, List.countP_cons]
      split
      · rw [Nat.add_mul, Nat.one_mul, Nat.add_comm]
      · rw [Nat.zero_add, Nat.add_zero]

theorem countP_relayedOf
    (begun : (step env).run (start config timeout hasRedis hasWebPush) before = some first)
    (reached : (step env).run first es = some server)
    (there₀ : first.connections s = some c₀) (there : server.connections s = some c) (drained : Drained s c₀ c server) {more : List Outgoing}
    (wrote : c.written = c₀.written ++ more) {m : Message}
    (fresh : m ∉ publications first.ctx.channelRouter) :
    (relayedOf more).countP (fun item => item.message = m) =
      matching m.key c₀ * (publications server.ctx.channelRouter).count m := by
  have told₀ := told_run begun
  have told := told_run (Step.run_append_iff.mpr ⟨first, begun, reached⟩)
  obtain ⟨rest₀, same₀, -⟩ := told₀.transcribed.tells s c₀ there₀
  obtain ⟨rest, same, waits⟩ := told.transcribed.tells s c there
  have nothing : rest = [] := by
    rw [waits drained.isOpen, drained.written]
    rfl
  rw [transcript_append s begun, List.map_append, same₀, nothing, List.append_nil, wrote, relayedOf_append,
    List.append_assoc, List.append_cancel_left_eq] at same
  have unsent : rest₀.countP (fun item => item.message = m) = 0 := by
    rw [List.countP_eq_zero]
    intro item waiting own
    have listed : item ∈ (transcript env (start config timeout hasRedis hasWebPush) before s).map (·.2) := by
      rw [same₀]
      exact List.mem_append_right _ waiting
    obtain ⟨entry, member, rfl⟩ := List.mem_map.mp listed
    obtain ⟨publication, recorded, message⟩ := (told₀.rightly s entry member).published
    refine fresh ?_
    rw [← of_decide_eq_true own, ← message]
    exact List.mem_map_of_mem recorded
  rw [← same, List.countP_append, unsent, Nat.zero_add, List.countP_map,
    ← countP_transcript begun reached there₀ there drained fresh]
  rfl

end

section
variable {η : Type*} (client : RealtimeClient η) (sub : String)

def relayNames : List String :=
  (client.subscriptions.keys.map subscribedName ++ [unicastInboxChannel sub]).dedup

def sourceOf (name : String) : Source :=
  if name ∈ client.subscriptions.keys.map subscribedName then sourceNamed client.tenantId name
  else .channel ⟨client.tenantId, name⟩

/-- How many of them match a channel. -/
def relayCount (channel : ChannelKey) : Nat :=
  (relayNames client sub).countP fun name => (sourceOf client name).matches channel

structure Subscribed (c : Connection) : Prop where
  isOpen : c.isOpen = true
  identity : c.identity = some (client.tenantId, sub)
  names : ∀ name, (AList.lookup name c.relayTasks).isSome = true ↔ name ∈ relayNames client sub
  running : ∀ name seq, AList.lookup name c.relayTasks = some seq →
    ∃ task, AList.lookup seq c.tasks = some task ∧ task.source = sourceOf client name
  settled : ∀ seq, (AList.lookup seq c.tasks).isSome = true →
    ∃ name, AList.lookup name c.relayTasks = some seq

variable {client sub}

theorem matching_eq {c : Connection} (subscribed : Subscribed client sub c) (wired : Wired c)
    (channel : ChannelKey) : matching channel c = relayCount client sub channel := by
  have number : ∀ name ∈ relayNames client sub, ∃ seq, AList.lookup name c.relayTasks = some seq :=
    fun name member => Option.isSome_iff_exists.mp ((subscribed.names name).mpr member)
  let seqOf : String → Nat := fun name => (AList.lookup name c.relayTasks).getD 0
  have seqOf_eq : ∀ name seq, AList.lookup name c.relayTasks = some seq → seqOf name = seq := by
    intro name seq found
    show (AList.lookup name c.relayTasks).getD 0 = seq
    rw [found]
    rfl
  have distinct : ((relayNames client sub).map seqOf).Nodup := by
    refine List.Nodup.map_on ?_ (List.nodup_dedup _)
    intro name member name' member' same
    obtain ⟨seq, found⟩ := number name member
    obtain ⟨seq', found'⟩ := number name' member'
    rw [seqOf_eq name seq found, seqOf_eq name' seq' found'] at same
    exact wired.distinct name name' seq found (same ▸ found')
  have members : ∀ seq, seq ∈ (relayNames client sub).map seqOf ↔ seq ∈ c.tasks.keys := by
    intro seq
    rw [List.mem_map, ← AList.mem_keys, ← AList.lookup_isSome]
    constructor
    · rintro ⟨name, member, rfl⟩
      obtain ⟨seq, found⟩ := number name member
      obtain ⟨task, running, -⟩ := subscribed.running name seq found
      rw [seqOf_eq name seq found]
      exact Option.isSome_of_eq_some running
    · intro live
      obtain ⟨name, found⟩ := subscribed.settled seq live
      exact ⟨name, (subscribed.names name).mp (Option.isSome_of_eq_some found), seqOf_eq name seq found⟩
  have same : ((relayNames client sub).map seqOf).Perm c.tasks.keys :=
    (List.perm_ext_iff_of_nodup distinct c.tasks.nodupKeys).mpr members
  let hits : Nat → Bool := fun seq => (AList.lookup seq c.tasks).any (·.source.matches channel)
  have tasks : matching channel c = c.tasks.keys.countP hits := by
    show _ = (c.tasks.entries.map (·.1)).countP hits
    rw [matching, List.countP_map]
    refine List.countP_congr fun e member => ?_
    have found : AList.lookup e.1 c.tasks = some e.2 := AList.mem_lookup_iff.mpr member
    simp [hits, found]
  rw [tasks, ← same.countP_eq, List.countP_map, relayCount]
  refine List.countP_congr fun name member => ?_
  obtain ⟨seq, found⟩ := number name member
  obtain ⟨task, running, source⟩ := subscribed.running name seq found
  have hit : hits (seqOf name) = (sourceOf client name).matches channel := by
    rw [seqOf_eq name seq found]
    simp [hits, running, source]
  rw [Function.comp_apply, hit]

theorem relayCount_pos {key : Utf16} (member : key ∈ client.subscriptions.keys) {channel : ChannelKey}
    (hit : (sourceNamed client.tenantId (subscribedName key)).matches channel = true) :
    0 < relayCount client sub channel := by
  have listed : subscribedName key ∈ client.subscriptions.keys.map subscribedName :=
    List.mem_map_of_mem member
  rw [relayCount, List.countP_pos_iff]
  refine ⟨subscribedName key, ?_, ?_⟩
  · rw [relayNames, List.mem_dedup]
    exact List.mem_append_left _ listed
  · rw [sourceOf, if_pos listed]
    exact hit

end

def queuedOf (out : List Outgoing) : List Queued :=
  out.filterMap fun
    | .relayed item => some item
    | _ => none

theorem relayedOf_eq_filter (out : List Outgoing) : relayedOf out = (queuedOf out).filter isRelayed := by
  rw [relayedOf, queuedOf, List.filter_filterMap]
  refine List.filterMap_congr fun o _ => ?_
  cases o with
  | relayed item => cases kind : isRelayed item <;> simp [Option.filter, kind]
  | _ => rfl

structure Arrives (items : List Queued) (arrivals : List (Queued × RealtimeClient.Arrival)) : Prop where
  inOrder : arrivals.map (·.1) = items
  bytes : ∀ a ∈ arrivals, a.2.raw = a.1.message.frame.toList

section
variable {η : Type*}

theorem delivered_of_whole {client : RealtimeClient η} {arrival : RealtimeClient.Arrival} {frame : Frame}
    (whole : parseChunk (asRead frame.payload) = none) :
    delivered client arrival frame = some (asRead frame.payload) := by
  rw [delivered, assemble, whole]

def timesHanded (m : Message) (frame : Frame) :
    List (Queued × RealtimeClient.Arrival) → RealtimeClient η → Nat
  | [], _ => 0
  | (item, arrival) :: arrivals, client =>
    (if isRelayed item ∧ item.message = m ∧ (delivered client arrival frame).isSome then 1 else 0) +
      timesHanded m frame arrivals (client.onmessage arrival).2

theorem timesHanded_of_whole {m : Message} {frame : Frame} (whole : parseChunk (asRead frame.payload) = none)
    (arrivals : List (Queued × RealtimeClient.Arrival)) (client : RealtimeClient η) :
    timesHanded m frame arrivals client =
      ((arrivals.map (·.1)).filter isRelayed).countP fun item => item.message = m := by
  induction arrivals generalizing client with
  | nil => rfl
  | cons a arrivals ih =>
      obtain ⟨item, arrival⟩ := a
      rw [timesHanded, ih, delivered_of_whole whole, List.map_cons, List.filter_cons]
      cases kind : isRelayed item with
      | false => simp
      | true =>
          rw [if_pos rfl, List.countP_cons, Nat.add_comm]
          simp

variable [DecidableEq η]

/-- How often the handler is called through the key for the relayed copies of a message. -/
def timesCalled (m : Message) (key : Utf16) (handler : η) :
    List (Queued × RealtimeClient.Arrival) → RealtimeClient η → Nat
  | [], _ => 0
  | (item, arrival) :: arrivals, client =>
    (if isRelayed item ∧ item.message = m then
      (client.onmessage arrival).1.countP fun call => call.key = key ∧ call.handler = handler else 0) +
      timesCalled m key handler arrivals (client.onmessage arrival).2

theorem timesCalled_eq {m : Message} {frame : Frame} (own : m.frame = frame.raw) {key : Utf16}
    {handlers : List η} {handler : η} (member : handler ∈ handlers)
    {arrivals : List (Queued × RealtimeClient.Arrival)}
    (bytes : ∀ a ∈ arrivals, a.2.raw = a.1.message.frame.toList) {client : RealtimeClient η}
    (registered : client.subscriptions.get key = some handlers) :
    timesCalled m key handler arrivals client =
      timesHanded m frame arrivals client * callsOf key (asRead frame.channelId) := by
  induction arrivals generalizing client with
  | nil => simp [timesCalled, timesHanded]
  | cons a arrivals ih =>
      obtain ⟨item, arrival⟩ := a
      have kept : (client.onmessage arrival).2.subscriptions.get key = some handlers := by
        rw [subscriptions_onmessage]
        exact registered
      have rest := ih (fun a inside => bytes a (List.mem_cons_of_mem _ inside)) kept
      rw [timesCalled, timesHanded, rest, Nat.add_mul]
      congr 1
      by_cases copy : isRelayed item = true ∧ item.message = m
      · have raw : arrival.raw = frame.raw.toList := by
          rw [bytes _ List.mem_cons_self, ← own, ← copy.2]
        rw [if_pos copy, countP_onmessage client arrival raw registered member]
        simp [copy]
      · have neither : ¬ (isRelayed item = true ∧ item.message = m ∧
            (delivered client arrival frame).isSome = true) := fun all => copy ⟨all.1, all.2.1⟩
        rw [if_neg copy, if_neg neither, Nat.zero_mul]

end

/-- A client whose subscriptions are processed, its session from there to where all that was published
meanwhile is written, and what so reaches the client. -/
structure Exchange (η : Type*) where
  env : Env
  config : RateLimitConfig
  timeout : Nat
  hasRedis : Bool
  hasWebPush : Bool
  before : List Event
  es : List Event
  first : Server
  server : Server
  s : SessionId
  c₀ : Connection
  c : Connection
  client : RealtimeClient η
  sub : String
  more : List Outgoing
  arrivals : List (Queued × RealtimeClient.Arrival)
  begun : (step env).run (start config timeout hasRedis hasWebPush) before = some first
  reached : (step env).run first es = some server
  there₀ : first.connections s = some c₀
  there : server.connections s = some c
  subscribed : Subscribed client sub c₀
  drained : Drained s c₀ c server
  wrote : c.written = c₀.written ++ more
  arrives : Arrives (queuedOf more) arrivals

theorem Exchange.countP_arrivals {η : Type*} (x : Exchange η) {m : Message}
    (fresh : m ∉ publications x.first.ctx.channelRouter) :
    ((x.arrivals.map (·.1)).filter isRelayed).countP (fun item => item.message = m) =
      relayCount x.client x.sub m.key * (publications x.server.ctx.channelRouter).count m := by
  have wired := (RelayLag.sound_run x.begun).wired x.s x.c₀ x.there₀
  rw [x.arrives.inOrder, ← relayedOf_eq_filter, ← matching_eq x.subscribed wired]
  exact countP_relayedOf x.begun x.reached x.there₀ x.there x.drained x.wrote fresh

/-- The frame that a client of a tenant publishes. -/
def pubFrame (tenantId : TenantId) (channel payload : Utf16) : Frame :=
  FrameFields.frame { opcode := .publish, tenantId, channelId := channel, payload }

/-- It is published on the channel that it names. -/
def pubMessage (tenantId : TenantId) (channel payload : Utf16) : Message :=
  ⟨(pubFrame tenantId channel payload).raw, ⟨tenantId, subscribedName channel⟩⟩

/-- Once if the key is the channel or a pattern that matches it, and else not at all. -/
def Due (key channel : Utf16) (times : Nat) : Prop :=
  (Heard key channel → times = 1) ∧ (¬ Heard key channel → times = 0)

theorem callsOf_eq_one_iff (key channelId : Utf16) : callsOf key channelId = 1 ↔
    Heard key channelId ∧ ¬ (star ∈ key ∧ key = channelId) := by
  unfold callsOf Heard
  by_cases exact : key = channelId
  · subst exact
    by_cases starred : star ∈ key
    · simp [starred, Sdk.globMatch, glob_self]
    · simp [starred]
  · by_cases hit : Sdk.star ∈ key ∧ Sdk.globMatch key channelId = true <;> simp [exact, hit]

section
variable {η : Type*} [DecidableEq η]

theorem Exchange.timesCalled_eq (x : Exchange η) {channel payload key : Utf16} {handlers : List η} {handler : η}
    (fresh : pubMessage x.client.tenantId channel payload ∉ publications x.first.ctx.channelRouter)
    (once : (publications x.server.ctx.channelRouter).count (pubMessage x.client.tenantId channel payload) = 1)
    (whole : parseChunk (asRead (pubFrame x.client.tenantId channel payload).payload) = none)
    (registered : x.client.subscriptions.get key = some handlers) (member : handler ∈ handlers) :
    timesCalled (pubMessage x.client.tenantId channel payload) key handler x.arrivals x.client =
      relayCount x.client x.sub ⟨x.client.tenantId, subscribedName channel⟩ *
        callsOf key (asRead (subscribedName channel)) := by
  have copies := x.countP_arrivals fresh
  have own : (pubMessage x.client.tenantId channel payload).frame =
    (pubFrame x.client.tenantId channel payload).raw := rfl
  have times := HandlerDelivery.timesCalled_eq own member x.arrives.bytes registered
  rw [timesHanded_of_whole whole, copies, once, Nat.mul_one] at times
  exact times

/-- The handlers of a key are called as often as is due for a publish exactly when one relay of the session
matches its channel and the key hears the channel as the frame names it, and hears it once, or, where the
key is not to hear the channel, no relay matches or the key does not hear the name in the frame. -/
theorem due_iff (x : Exchange η) {channel payload key : Utf16} {handlers : List η} {handler : η}
    (fresh : pubMessage x.client.tenantId channel payload ∉ publications x.first.ctx.channelRouter)
    (once : (publications x.server.ctx.channelRouter).count (pubMessage x.client.tenantId channel payload) = 1)
    (whole : parseChunk (asRead (pubFrame x.client.tenantId channel payload).payload) = none)
    (registered : x.client.subscriptions.get key = some handlers) (member : handler ∈ handlers) :
    Due key channel
        (timesCalled (pubMessage x.client.tenantId channel payload) key handler x.arrivals x.client) ↔
      (Heard key channel → relayCount x.client x.sub ⟨x.client.tenantId, subscribedName channel⟩ = 1 ∧
        Heard key (asRead (subscribedName channel)) ∧
          ¬ (star ∈ key ∧ key = asRead (subscribedName channel))) ∧
      (¬ Heard key channel → relayCount x.client x.sub ⟨x.client.tenantId, subscribedName channel⟩ = 0 ∨
        ¬ Heard key (asRead (subscribedName channel))) := by
  have silent : callsOf key (asRead (subscribedName channel)) = 0 ↔
      ¬ Heard key (asRead (subscribedName channel)) := by
    rw [← callsOf_pos_iff, Nat.pos_iff_ne_zero, not_not]
  rw [Due, x.timesCalled_eq fresh once whole registered member, mul_eq_one, Nat.mul_eq_zero, callsOf_eq_one_iff,
    silent]

end

def watched (s : SessionId) (c : Connection) (frame : Frame) (now : Clock) (server : Server) : Server :=
  let ctx := charged s frame now server.ctx
  (server.setCtx { ctx with
      channelRouter := ctx.channelRouter.subscribeWildcard frame.tenantId frame.channelId ⟨s, c.spawned⟩
      metrics := ctx.metrics.recordFrame frame.tenantId Opcode.subscribe.label }).setConnection s
    (c.spawnRelay frame.channelId (.wildcard ⟨frame.tenantId, frame.channelId⟩) false)

theorem takeFrame_pattern {env : Env} {server : Server} {s : SessionId} {c : Connection} (frame : Frame)
    {now : Clock} (opcode : frame.opcode = .subscribe)
    (owned : c.authenticatedTenant = some frame.tenantId) (pattern : isPattern frame.channelId = true)
    (allowed : (server.ctx.rateLimiter.check s frame.tenantId now.instant).1 = true) :
    server.takeFrame env s c frame now = watched s c frame now server := by
  have executed := executeInner_pattern env.codec server.redis s ⟨s, c.spawned⟩ frame now
    (charged s frame now server.ctx) opcode pattern
  rw [← owned] at executed
  unfold takeFrame
  rw [if_pos allowed]
  refine (handleFrame_eq (server.setCtx (charged s frame now server.ctx)) executed).trans ?_
  have other : acceptedClaims env frame now (charged s frame now server.ctx) = none :=
    if_neg (by rw [opcode]; decide)
  simp only [afterDispatch, setCtx_ctx, other, react, settled, opcode]
  rfl

theorem step_writeOut {env : Env} {server : Server} {s : SessionId} {c : Connection} {item : Queued}
    {rest : List Queued} (isOpen : c.isOpen = true) (idle : c.replaying = [])
    (queue : c.outQueue = item :: rest) : step env (server.setConnection s c) (.writeOut s) =
      some (server.setConnection s ({ c with outQueue := rest }.write [.relayed item])) := by
  have ready : (server.setConnection s c).waiting s = some c :=
    waiting_of_found (connections_setConnection_self _ _ _) isOpen idle
  show (server.setConnection s c).writeOutStep s = _
  simp only [writeOutStep, ready, Option.bind_some, queue, setConnection_setConnection]

theorem publications_published (s : SessionId) (c : Connection) (frame : Frame) (key : ChannelKey) (now : Clock)
    (server : Server) (own : frame.tenantId = key.tenantId) :
    publications (Proof.published s c frame key now server).ctx.channelRouter =
      publications server.ctx.channelRouter ++ [⟨frame.raw, key⟩] := by
  rw [channelRouter_published, ChannelRouterService.publish, if_neg (not_not.mpr own)]
  simp only [publications, List.map_append, List.map_cons, List.map_nil]

section Sample
open SampleToken Sample

def roomName : Utf16 := ofString "room"
def hello : Utf16 := ofString "hi"
def room : ChannelKey := ⟨tenantOne, "room"⟩
def everything : Source := .wildcard ⟨tenantOne, "*"⟩

def starParsed : Frame := subParsed "*" (by decide)

def roomConnection : Connection := aliceConnection.spawnRelay "room" (.channel room) false
def bothConnection : Connection := roomConnection.spawnRelay "*" everything false

def watching : Server := watched sessionOne roomConnection starParsed epoch inRoom

def helloMessage : Message := pubMessage tenantOne roomName hello

def told : Server := Proof.published sessionOne bothConnection (pubFrame tenantOne roomName hello) room epoch watching

theorem subscribedName_roomName : subscribedName roomName = "room" := by
  have fits : utf8ByteLength roomName ≤ lenChannel := by decide
  rw [subscribedName_of_fits fits (by decide), roomName, toUsv_ofString]

theorem namedKey_roomParsed : namedKey roomParsed = room := by
  have trimmed : trimEndNul "room" = "room" := by decide
  simp [namedKey, roomParsed, subParsed, FrameBuilder.frame, subFrame, room, trimmed]

theorem channelId_starParsed : starParsed.channelId = "*" := by
  have trimmed : trimEndNul "*" = "*" := by decide
  exact trimmed

theorem inRoom_connection : inRoom.waiting sessionOne = some roomConnection := by
  have named : roomParsed.channelId = "room" := congrArg ChannelKey.channelId namedKey_roomParsed
  have ready : inRoom.waiting sessionOne = some
      (aliceConnection.spawnRelay roomParsed.channelId (.channel (namedKey roomParsed)) false) :=
    waiting_set rfl rfl
  rw [namedKey_roomParsed, named] at ready
  exact ready

theorem step_watching : step env inRoom (.inbound sessionOne (subFrame "*").build.toList epoch) =
    some watching := by
  have fits : (utf8 "*").length ≤ lenChannel := by decide
  have pattern : isPattern (trimEndNul "*") = true := by decide
  rw [step_inbound_built env (subFrame "*") epoch fits (Nat.zero_le _) inRoom_connection]
  exact congrArg some (takeFrame_pattern starParsed rfl rfl pattern allowed_inRoom)

theorem run_watching : (step env).run (started false)
    (signInEvents ++ [subRoom, .inbound sessionOne (subFrame "*").build.toList epoch]) = some watching :=
  Step.run_append_iff.mpr ⟨_, run_signedIn false, Step.run_cons_iff.mpr ⟨_, step_inRoom,
    Step.run_cons_iff.mpr ⟨_, step_watching, rfl⟩⟩⟩

theorem watching_connection : watching.connections sessionOne = some bothConnection := by
  have there : watching.connections sessionOne = some (roomConnection.spawnRelay starParsed.channelId
      (.wildcard ⟨starParsed.tenantId, starParsed.channelId⟩) false) := connections_setConnection_self _ _ _
  rw [channelId_starParsed] at there
  exact there

theorem key_helloMessage : helloMessage.key = room := congrArg (ChannelKey.mk tenantOne) subscribedName_roomName

theorem rateLimiter_watching : watching.ctx.rateLimiter =
    (inRoom.ctx.rateLimiter.check sessionOne tenantOne epoch.instant).2 := rfl

theorem rateLimiter_inRoom : inRoom.ctx.rateLimiter =
    ((signedIn false).ctx.rateLimiter.check sessionOne tenantOne epoch.instant).2 := rfl

theorem step_told : step env watching (.inbound sessionOne (pubFrame tenantOne roomName hello).raw.toList epoch) =
    some told := by
  have named : publishKey (pubFrame tenantOne roomName hello) = some room := congrArg some key_helloMessage
  have allowed : (watching.ctx.rateLimiter.check sessionOne tenantOne epoch.instant).1 = true := by
    rw [rateLimiter_watching, rateLimiter_inRoom]
    decide +kernel
  have parsed := Frame.parseSlice_raw (pubFrame tenantOne roomName hello)
  have ready : watching.waiting sessionOne = some bothConnection := waiting_of_found watching_connection rfl rfl
  have arrived : step env watching (.inbound sessionOne (pubFrame tenantOne roomName hello).raw.toList epoch) =
      some (watching.takeFrame env sessionOne bothConnection (pubFrame tenantOne roomName hello) epoch) := by
    show watching.inboundStep env sessionOne _ epoch = _
    have transport : bothConnection.transport = .webSocket := rfl
    simp only [inboundStep, ready, Option.bind_some, transport, parseInbound, parsed, Option.map_some]
  exact arrived.trans (congrArg some (takeFrame_published (pubFrame tenantOne roomName hello) named rfl allowed))

theorem watching_journal : watching.ctx.channelRouter.journal.map (·.1) = [room.presenceKey] := by
  rfl

def inbox : Source := .channel ⟨tenantOne, unicastInboxChannel "a"⟩

theorem sent_told (source : Source) (rx : ReceiverId) :
    told.ctx.channelRouter.sent source rx = if source.matches room = true then
      (watching.ctx.channelRouter.sent source rx).map (· ++ [helloMessage])
      else watching.ctx.channelRouter.sent source rx := by
  have own : (pubFrame tenantOne roomName hello).tenantId = room.tenantId := rfl
  have same : (⟨(pubFrame tenantOne roomName hello).raw, room⟩ : Message) = helloMessage :=
    congrArg (Message.mk (pubFrame tenantOne roomName hello).raw) key_helloMessage.symm
  rw [told, sent_published_ite, same]
  simp only [own, true_and]

theorem sent_watching (source : Source) (rx : ReceiverId) :
    watching.ctx.channelRouter.sent source rx =
      if source = everything ∧ rx = ⟨sessionOne, 2⟩ then some [] else inRoom.ctx.channelRouter.sent source rx := by
  have router : watching.ctx.channelRouter =
      inRoom.ctx.channelRouter.subscribeWildcard tenantOne starParsed.channelId ⟨sessionOne, 2⟩ := rfl
  rw [router, channelId_starParsed, ChannelRouterService.sent_subscribeWildcard]
  rfl

theorem sent_everything : told.ctx.channelRouter.sent everything ⟨sessionOne, 2⟩ = some [helloMessage] := by
  have hit : everything.matches room = true := by decide
  rw [sent_told, if_pos hit, sent_watching, if_pos ⟨rfl, rfl⟩]
  rfl

theorem sent_room : told.ctx.channelRouter.sent (.channel room) ⟨sessionOne, 1⟩ = some [helloMessage] := by
  have hit : (Source.channel room).matches room = true := by decide
  have joined := sent_subscribed sessionOne aliceConnection roomParsed epoch (signedIn false)
  rw [namedKey_roomParsed] at joined
  have inside : inRoom.ctx.channelRouter.sent (.channel room) ⟨sessionOne, 1⟩ = some [] := joined
  rw [sent_told, if_pos hit, sent_watching, if_neg (by rintro ⟨⟨⟩, -⟩), inside]
  rfl

theorem sent_inbox : told.ctx.channelRouter.sent inbox ⟨sessionOne, 0⟩ = some [] := by
  have miss : ¬ inbox.matches room = true := by decide
  have quiet : ¬ (roomParsed.tenantId = (namedKey roomParsed).presenceKey.tenantId ∧
      inbox.matches (namedKey roomParsed).presenceKey = true) := by
    rw [namedKey_roomParsed]
    decide
  have apart : ¬ (inbox = .channel (namedKey roomParsed) ∧
      (⟨sessionOne, 0⟩ : ReceiverId) = ⟨sessionOne, aliceConnection.spawned⟩) := by
    rintro ⟨-, ⟨⟩⟩
  have signed : (signedIn false).ctx.channelRouter.sent inbox ⟨sessionOne, 0⟩ = some [] := by
    show ((connected sessionOne (registered false)).ctx.channelRouter.attach
      (inboxKey aliceParsed "a") ⟨sessionOne, 0⟩).sent inbox ⟨sessionOne, 0⟩ = some []
    rw [ChannelRouterService.sent_attach]
    exact if_pos ⟨rfl, rfl⟩
  have start : inRoom.ctx.channelRouter.sent inbox ⟨sessionOne, 0⟩ = some [] := by
    show (((signedIn false).ctx.channelRouter.attach (namedKey roomParsed)
      ⟨sessionOne, aliceConnection.spawned⟩).publish roomParsed.tenantId
        (namedKey roomParsed).presenceKey _ epoch.unixSecs).2.sent _ _ = _
    rw [ChannelRouterService.sent_publish, if_neg quiet, ChannelRouterService.sent_attach, if_neg apart,
      signed]
  rw [sent_told, if_neg miss, sent_watching, if_neg (by rintro ⟨⟨⟩, -⟩), start]

def roomTask : RelayTask := ⟨.channel room, false, 0, none, false⟩
def starTask : RelayTask := ⟨everything, false, 0, none, false⟩
def inboxTask : RelayTask := ⟨inbox, true, 0, none, false⟩

theorem tasks_bothConnection : bothConnection.tasks.entries =
    [⟨2, starTask⟩, ⟨1, roomTask⟩, ⟨0, inboxTask⟩] := by
  rfl

theorem told_connection : told.connections sessionOne = some bothConnection :=
  connections_setConnection_self _ _ _

def roomForwarded : Connection :=
  sentBy 1 { roomTask with next := 1, inFlight := some helloMessage } helloMessage
    (takenBy 1 roomTask helloMessage bothConnection)
def bothForwarded : Connection :=
  sentBy 2 { starTask with next := 1, inFlight := some helloMessage } helloMessage
    (takenBy 2 starTask helloMessage roomForwarded)

def roomCopy : Queued := ⟨helloMessage, .relay (.channel room)⟩
def starCopy : Queued := ⟨helloMessage, .relay everything⟩

def roomWritten : Connection := { bothForwarded with outQueue := [starCopy], written := [.relayed roomCopy] }
def bothWritten : Connection :=
  { bothForwarded with outQueue := [], written := [.relayed roomCopy, .relayed starCopy] }

def heard : Server := told.setConnection sessionOne bothWritten

def helloEvents : List Event :=
  [.inbound sessionOne (pubFrame tenantOne roomName hello).raw.toList epoch, .relayRecv sessionOne 1,
    .relaySend sessionOne 1, .relayRecv sessionOne 2, .relaySend sessionOne 2, .writeOut sessionOne,
    .writeOut sessionOne]

theorem run_heard : (step env).run watching helloEvents = some heard := by
  have first : told.ctx.channelRouter.receive roomTask.source ⟨sessionOne, 1⟩ roomTask.next =
      .message helloMessage := receive_first rfl sent_room
  have roomSends := run_forwarded env told_connection rfl rfl rfl (by decide) first
  have there : (told.setConnection sessionOne roomForwarded).connections sessionOne = some roomForwarded :=
    connections_setConnection_self _ _ _
  have next : (told.setConnection sessionOne roomForwarded).ctx.channelRouter.receive starTask.source
      ⟨sessionOne, 2⟩ starTask.next = .message helloMessage := by
    rw [setConnection_ctx]
    exact receive_first rfl sent_everything
  have starSends := run_forwarded env there rfl rfl rfl (by decide) next
  rw [setConnection_setConnection] at starSends
  have roomLeaves : step env (told.setConnection sessionOne bothForwarded) (.writeOut sessionOne) =
      some (told.setConnection sessionOne roomWritten) :=
    step_writeOut rfl rfl (rfl : bothForwarded.outQueue = [roomCopy, starCopy])
  have starLeaves : step env (told.setConnection sessionOne roomWritten) (.writeOut sessionOne) = some heard :=
    step_writeOut rfl rfl (rfl : roomWritten.outQueue = [starCopy])
  have sends := Step.run_append_iff.mpr ⟨_, roomSends, starSends⟩
  have leaves : (step env).run (told.setConnection sessionOne bothForwarded)
      [.writeOut sessionOne, .writeOut sessionOne] = some heard :=
    Step.run_cons_iff.mpr ⟨_, roomLeaves, Step.run_cons_iff.mpr ⟨_, starLeaves, rfl⟩⟩
  exact Step.run_cons_iff.mpr ⟨_, step_told, Step.run_append_iff.mpr ⟨_, sends, leaves⟩⟩

def starName : Utf16 := ofString "*"

theorem subscribedName_starName : subscribedName starName = "*" := by
  have fits : utf8ByteLength starName ≤ lenChannel := by decide
  rw [subscribedName_of_fits fits (by decide), starName, toUsv_ofString]

def listening (name : Utf16) : RealtimeClient Nat where
  tenantId := tenantOne
  open_ := true
  subscriptions := (Subscriptions.empty.add name 0).add starName 1
  reassembler := .new
  pendingSends := []

theorem entries_listening {name : Utf16} (apart : name ≠ starName) :
    (listening name).subscriptions.entries = [(name, [0]), (starName, [1])] := by
  have first : ((Subscriptions.empty : Subscriptions Nat).add name 0).entries = [(name, [0])] := rfl
  have absent : starName ∉ ((Subscriptions.empty : Subscriptions Nat).add name 0).keys := by
    rw [Subscriptions.keys, first]
    simpa using Ne.symm apart
  show (((Subscriptions.empty : Subscriptions Nat).add name 0).add starName 1).entries = _
  rw [Subscriptions.add, dif_neg absent]
  rfl

theorem relayNames_listening {name : Utf16} (named : subscribedName name = "room") (apart : name ≠ starName) :
    relayNames (listening name) "a" = ["room", "*", "user:a"] := by
  rw [relayNames, Subscriptions.keys, entries_listening apart]
  simp only [List.map_cons, List.map_nil, named, subscribedName_starName]
  decide

theorem relayTasks_bothConnection (name : String) : AList.lookup name bothConnection.relayTasks =
    if name = "*" then some 2 else if name = "room" then some 1 else if name = "user:a" then some 0 else none := by
  rw [bothConnection, lookup_spawnRelay, roomConnection, lookup_spawnRelay, aliceConnection, lookup_spawnRelay]
  rfl

theorem sourceOf_listening {name : Utf16} (named : subscribedName name = "room") (apart : name ≠ starName) :
    sourceOf (listening name) "room" = .channel room ∧ sourceOf (listening name) "*" = everything ∧
      sourceOf (listening name) "user:a" = inbox := by
  have keys : (listening name).subscriptions.keys.map subscribedName = ["room", "*"] := by
    rw [Subscriptions.keys, entries_listening apart]
    simp only [List.map_cons, List.map_nil, named, subscribedName_starName]
  have tenant : (listening name).tenantId = tenantOne := rfl
  simp only [sourceOf, keys, tenant]
  decide

theorem subscribed_listening {name : Utf16} (named : subscribedName name = "room") (apart : name ≠ starName) :
    Subscribed (listening name) "a" bothConnection where
  isOpen := rfl
  identity := rfl
  names key := by
    rw [relayTasks_bothConnection, relayNames_listening named apart]
    split_ifs <;> simp [*]
  running key seq found := by
    obtain ⟨ofRoom, ofStar, ofInbox⟩ := sourceOf_listening named apart
    rw [relayTasks_bothConnection] at found
    split_ifs at found with star room inbox
    · cases found
      exact ⟨starTask, rfl, star ▸ ofStar.symm⟩
    · cases found
      exact ⟨roomTask, rfl, room ▸ ofRoom.symm⟩
    · cases found
      exact ⟨inboxTask, rfl, inbox ▸ ofInbox.symm⟩
  settled seq live := by
    have listed : seq ∈ [2, 1, 0] := by
      rw [AList.lookup_isSome, AList.mem_keys, AList.keys, tasks_bothConnection] at live
      exact live
    simp only [List.mem_cons, List.not_mem_nil, or_false] at listed
    rcases listed with rfl | rfl | rfl
    · exact ⟨"*", by rw [relayTasks_bothConnection]; decide⟩
    · exact ⟨"room", by rw [relayTasks_bothConnection]; decide⟩
    · exact ⟨"user:a", by rw [relayTasks_bothConnection]; decide⟩

theorem drained_heard : Drained sessionOne bothConnection bothWritten heard where
  isOpen := rfl
  spawned := rfl
  idle seq live := by
    have listed : seq ∈ [2, 1, 0] := by
      rw [AList.lookup_isSome, AList.mem_keys, AList.keys, tasks_bothConnection] at live
      exact live
    simp only [List.mem_cons, List.not_mem_nil, or_false] at listed
    rcases listed with rfl | rfl | rfl
    · refine ⟨{ starTask with next := 1 }, rfl, fun log sent => ?_⟩
      rw [heard, setConnection_ctx] at sent
      have same := sent_everything.symm.trans sent
      cases same
      rfl
    · refine ⟨{ roomTask with next := 1 }, rfl, fun log sent => ?_⟩
      rw [heard, setConnection_ctx] at sent
      have same := sent_room.symm.trans sent
      cases same
      rfl
    · refine ⟨inboxTask, rfl, fun log sent => ?_⟩
      rw [heard, setConnection_ctx] at sent
      have same := sent_inbox.symm.trans sent
      cases same
      rfl
  written := rfl

def copies : List (Queued × RealtimeClient.Arrival) :=
  [(roomCopy, ⟨helloMessage.frame.toList, 0, 0, 0⟩), (starCopy, ⟨helloMessage.frame.toList, 0, 0, 0⟩)]

def twice (name : Utf16) (named : subscribedName name = "room") (apart : name ≠ starName) : Exchange Nat where
  env := env
  config := {}
  timeout := 30000000000
  hasRedis := false
  hasWebPush := false
  before := signInEvents ++ [subRoom, .inbound sessionOne (subFrame "*").build.toList epoch]
  es := helloEvents
  first := watching
  server := heard
  s := sessionOne
  c₀ := bothConnection
  c := bothWritten
  client := listening name
  sub := "a"
  more := [.relayed roomCopy, .relayed starCopy]
  arrivals := copies
  begun := run_watching
  reached := run_heard
  there₀ := watching_connection
  there := connections_setConnection_self _ _ _
  subscribed := subscribed_listening named apart
  drained := drained_heard
  wrote := rfl
  arrives := ⟨rfl, by simp [copies, roomCopy, starCopy]⟩

theorem fresh_helloMessage : helloMessage ∉ publications watching.ctx.channelRouter := by
  intro listed
  obtain ⟨entry, member, same⟩ := List.mem_map.mp listed
  have key := ((told_run run_watching).recorded entry member).key
  have early : entry.1 ∈ watching.ctx.channelRouter.journal.map (·.1) := List.mem_map_of_mem member
  rw [watching_journal, List.mem_singleton, ← key, same, key_helloMessage] at early
  exact presenceKey_ne room early.symm

theorem once_helloMessage : (publications heard.ctx.channelRouter).count helloMessage = 1 := by
  have own : (pubFrame tenantOne roomName hello).tenantId = room.tenantId := rfl
  have same : (⟨(pubFrame tenantOne roomName hello).raw, room⟩ : Message) = helloMessage :=
    congrArg (Message.mk (pubFrame tenantOne roomName hello).raw) key_helloMessage.symm
  have before := List.count_eq_zero.mpr fresh_helloMessage
  rw [heard, setConnection_ctx, told, publications_published _ _ _ _ _ _ own, same, List.count_append, before,
    List.count_singleton_self]

theorem whole_hello : parseChunk (asRead (pubFrame tenantOne roomName hello).payload) = none := by
  decide

theorem get_listening {name : Utf16} (apart : name ≠ starName) :
    (listening name).subscriptions.get name = some [0] := by
  rw [Subscriptions.get, entries_listening apart, List.lookup_cons_self]

theorem relayCount_listening {name : Utf16} (named : subscribedName name = "room") (apart : name ≠ starName) :
    relayCount (listening name) "a" room = 2 := by
  obtain ⟨ofRoom, ofStar, ofInbox⟩ := sourceOf_listening named apart
  rw [relayCount, relayNames_listening named apart]
  simp only [List.countP_cons, List.countP_nil, ofRoom, ofStar, ofInbox]
  decide

theorem roomName_ne : roomName ≠ starName := by decide

theorem due_iff_twice : Due roomName roomName (timesCalled (pubMessage tenantOne roomName hello) roomName 0
      copies (listening roomName)) ↔
    (Heard roomName roomName → relayCount (listening roomName) "a" ⟨tenantOne, subscribedName roomName⟩ = 1 ∧
      Heard roomName (asRead (subscribedName roomName)) ∧
        ¬ (Sdk.star ∈ roomName ∧ roomName = asRead (subscribedName roomName))) ∧
    (¬ Heard roomName roomName →
      relayCount (listening roomName) "a" ⟨tenantOne, subscribedName roomName⟩ = 0 ∨
        ¬ Heard roomName (asRead (subscribedName roomName))) :=
  due_iff (twice roomName subscribedName_roomName roomName_ne) fresh_helloMessage once_helloMessage whole_hello
    (get_listening roomName_ne) List.mem_cons_self

theorem not_due_twice :
    ¬ ∀ (x : Exchange Nat) (channel payload key : Utf16) (handlers : List Nat) (handler : Nat),
      pubMessage x.client.tenantId channel payload ∉ publications x.first.ctx.channelRouter →
        (publications x.server.ctx.channelRouter).count (pubMessage x.client.tenantId channel payload) = 1 →
        parseChunk (asRead (pubFrame x.client.tenantId channel payload).payload) = none →
        x.client.subscriptions.get key = some handlers → handler ∈ handlers →
        Due key channel
          (timesCalled (pubMessage x.client.tenantId channel payload) key handler x.arrivals x.client) := by
  intro claim
  have due := claim (twice roomName subscribedName_roomName roomName_ne) roomName hello roomName [0] 0
    fresh_helloMessage once_helloMessage whole_hello (get_listening roomName_ne) List.mem_cons_self
  have times : timesCalled (pubMessage tenantOne roomName hello) roomName 0 copies (listening roomName) =
      relayCount (listening roomName) "a" ⟨tenantOne, subscribedName roomName⟩ *
        callsOf roomName (asRead (subscribedName roomName)) :=
    (twice roomName subscribedName_roomName roomName_ne).timesCalled_eq fresh_helloMessage once_helloMessage
      whole_hello (get_listening roomName_ne) List.mem_cons_self
  have relays : relayCount (listening roomName) "a" ⟨tenantOne, subscribedName roomName⟩ = 2 := by
    rw [subscribedName_roomName]
    exact relayCount_listening subscribedName_roomName roomName_ne
  have calls : callsOf roomName (asRead (subscribedName roomName)) = 1 := by
    rw [subscribedName_roomName]
    decide
  have single : timesCalled (pubMessage tenantOne roomName hello) roomName 0 copies (listening roomName) = 1 :=
    due.1 (Or.inl rfl)
  rw [times, relays, calls] at single
  exact absurd single (by decide)

end Sample

end RealtimePlatform.Proof.HandlerDelivery
