import Mathlib.Data.Fintype.Card
import Mathlib.Algebra.BigOperators.Group.Finset.Basic
import Mathlib.Algebra.Order.BigOperators.Group.List
import RealtimePlatform.Proof.ClusterRouting

namespace RealtimePlatform.Proof.HistoryOnce
open Library Backend Backend.Server Backend.UseCases

structure Queues where
  history : Option (List (ChannelKey × Message))
  cluster : Option (List RawFrame)

def queues (ctx : RealtimeContext) : Queues :=
  ⟨ctx.channelRouter.historyPort.map (·.outbound), ctx.pushFallback.cluster⟩

def Queues.record (frame : Frame) (key : ChannelKey) (q : Queues) : Queues :=
  { q with history := q.history.map (· ++ [(key, ⟨frame.raw, key⟩)]) }

def Queues.push (frame : Frame) (key : ChannelKey) (q : Queues) : Queues :=
  { q.record frame key with cluster := q.cluster.map (· ++ [frame.raw]) }

structure Room (q : Queues) : Prop where
  history : ∀ outbound, q.history = some outbound → outbound.length < outboundQueueCapacity
  cluster : ∀ outbound, q.cluster = some outbound → outbound.length < outboundQueueCapacity

theorem history_publish {ctx : RealtimeContext} (room : Room (queues ctx)) (key : ChannelKey)
    (m : Message) (nowSecs : Nat) :
    (ctx.channelRouter.publish key.tenantId key m nowSecs).2.historyPort.map (·.outbound) =
      (queues ctx).history.map (· ++ [(key, m)]) := by
  simp only [ChannelRouterService.publish, ne_eq, not_true_eq_false, if_false, queues]
  cases port : ctx.channelRouter.historyPort with
  | none => rfl
  | some adapter =>
      have free := room.history adapter.outbound (by rw [queues, port]; rfl)
      simp [RedisStreamsHistoryAdapter.persist, free]

theorem queues_publishAndFanout (ctx : RealtimeContext) (room : Room (queues ctx)) {frame : Frame}
    {key : ChannelKey} (own : frame.tenantId = key.tenantId) (now : Clock) :
    queues (ctx.publishAndFanout frame.tenantId key frame now) = (queues ctx).push frame key := by
  have history : (ctx.publishAndFanout frame.tenantId key frame now).channelRouter.historyPort.map
      (·.outbound) = (queues ctx).history.map (· ++ [(key, ⟨frame.raw, key⟩)]) := by
    rw [RealtimeContext.channelRouter_publishAndFanout, own]
    exact history_publish room key _ _
  have cluster : (ctx.publishAndFanout frame.tenantId key frame now).pushFallback.cluster =
      (queues ctx).cluster.map (· ++ [frame.raw]) := by
    have sent : ctx.pushFallback.cluster.map (RealtimeContext.broadcast frame.raw) =
        (queues ctx).cluster.map (· ++ [frame.raw]) := by
      cases there : ctx.pushFallback.cluster with
      | none => simp [queues, there]
      | some outbound =>
          have free := room.cluster outbound there
          simp [queues, there, RealtimeContext.broadcast, free]
    unfold RealtimeContext.publishAndFanout
    simp only [ChannelRouterService.publish, own, ne_eq, not_true_eq_false, if_false]
    split <;> exact sent
  unfold Queues.push Queues.record
  rw [queues, history, cluster]

theorem queues_reinject {ctx : RealtimeContext} (room : Room (queues ctx)) (frame : Frame) (now : Clock) :
    queues (reinject frame now ctx) = (queues ctx).record frame (remoteKey frame) := by
  have history := history_publish room (remoteKey frame) ⟨frame.raw, remoteKey frame⟩ now.unixSecs
  rw [Queues.record, ← history]
  rfl

section
variable {env : Env} {server server' : Server} {e : Event}

def Announces (env : Env) (server : Server) : Event → Prop
  | .inbound s bytes now => ∃ frame, handledFrame server s bytes now = some frame ∧
      ((frame.opcode = .subscribe ∨ frame.opcode = .unsub) ∧ isPattern frame.channelId = false ∨
        frame.opcode = .auth ∧ acceptedClaims env frame now server.ctx = none)
  | .disconnect .. | .sweep .. => True
  | _ => False

theorem queues_replay {ctx : RealtimeContext} {redis : RedisStreams Message} {tenantId : TenantId}
    {key : ChannelKey} {since : Nat} {frames : List Message} {router : ChannelRouterService Message}
    (found : ctx.channelRouter.replay redis tenantId key since = (.ok frames, router)) :
    queues { ctx with channelRouter := router } = queues ctx := by
  have same : router.historyPort = ctx.channelRouter.historyPort := by
    have after := (congrArg Prod.snd found).symm
    rw [show router = _ from after, ChannelRouterService.replay]
    split
    · rfl
    · split <;> rfl
  simp [queues, same]

theorem queues_detach (source : Source) (rx : ReceiverId) (ctx : RealtimeContext) :
    queues { ctx with channelRouter := ctx.channelRouter.detach source rx } = queues ctx := by
  cases source <;> rfl

theorem queues_handled {s : SessionId} {bytes : List UInt8} {now : Clock} {c : Connection} {frame : Frame}
    {command : FrameCommand} {tenant : Option TenantId} {ctx : RealtimeContext}
    (handles : Handles env server s bytes now c frame command tenant ctx)
    (silent : ¬ Announces env server (.inbound s bytes now)) (c' : Connection)
    (nothing : clientPublish env server (.inbound s bytes now) = none) :
    queues (settled s now c' frame command ctx) = queues server.ctx := by
  have quiet := fun announced =>
    silent ⟨frame, handledFrame_of_admitted handles.toAdmitted, announced⟩
  cases handles.dispatched with
  | rejected err opcode invalid =>
      refine absurd (Or.inr ⟨opcode, ?_⟩) quiet
      rw [acceptedClaims, if_pos opcode]
      exact congrArg Except.toOption invalid
  | exact opcode _ plain => exact absurd (Or.inl ⟨Or.inl opcode, plain⟩) quiet
  | unsubExact opcode _ plain => exact absurd (Or.inl ⟨Or.inr opcode, plain⟩) quiet
  | published key named owned =>
      rw [clientPublish_of_admitted env handles.toAdmitted owned named] at nothing
      cases nothing
  | replayed frames router _ _ _ found =>
      exact queues_replay found
  | _ => rfl

theorem queues_published {s : SessionId} {bytes : List UInt8} {now : Clock} {c : Connection} {frame : Frame}
    {command : FrameCommand} {tenant : Option TenantId} {ctx : RealtimeContext} {key : ChannelKey}
    (handles : Handles env server s bytes now c frame command tenant ctx) (c' : Connection)
    (owned : c.authenticatedTenant = some frame.tenantId) (named : publishKey frame = some key)
    (room : Room (queues server.ctx)) :
    queues (settled s now c' frame command ctx) = (queues server.ctx).push frame key := by
  have executed := handles.executed
  rw [owned, executeInner_published _ _ _ _ _ _ _ named] at executed
  obtain ⟨rfl, rest⟩ := Prod.mk.inj executed
  obtain ⟨_, rfl⟩ := Prod.mk.inj rest
  exact queues_publishAndFanout (charged s frame now server.ctx) room (tenantId_publishKey named).symm
    now

theorem queues_http {request : HttpRequest} {now : Clock} (room : Room (queues server.ctx)) :
    queues (httpStep env request now server.ctx) =
      (clientPublish env server (.http request now)).elim (queues server.ctx)
        fun published => (queues server.ctx).push published.1 published.2 := by
  cases published : clientPublish env server (.http request now) with
  | none =>
      rcases httpStep_unpublished published with same | paid
      · rw [same, Option.elim_none]
      · rw [paid]
        rfl
  | some pair =>
      rw [httpStep_published published]
      exact queues_publishAndFanout (chargedTenant request.tenantId now server.ctx) room
        (tenantId_of_clientPublish published) now

theorem queues_step (taken : Server.step env server e = some server') (room : Room (queues server.ctx))
    (own : Cluster.isLocal e = true) (silent : ¬ Announces env server e) :
    server'.redis = server.redis ∧
      queues server'.ctx = (clientPublish env server e).elim (queues server.ctx)
        fun published => (queues server.ctx).push published.1 published.2 := by
  cases step_cases taken with
  | unparsed ready parsed =>
      rw [clientPublish_unhandled (handledFrame_unparsed ready parsed)]
      exact ⟨rfl, rfl⟩
  | limited ready parsed refused =>
      rw [clientPublish_unhandled (handledFrame_limited ready parsed refused)]
      exact ⟨rfl, rfl⟩
  | handled handles =>
      rename_i s bytes now c frame command tenant ctx
      refine ⟨rfl, ?_⟩
      cases published : clientPublish env server (.inbound s bytes now) with
      | none => exact queues_handled handles silent _ published
      | some pair =>
          obtain ⟨c', admitted, owned, named⟩ := clientPublish_inbound published
          obtain rfl := Option.some.inj (handles.ready.symm.trans admitted.ready)
          obtain rfl : frame = pair.1 := by
            have handled := handledFrame_of_admitted handles.toAdmitted
            rw [handledFrame_of_admitted admitted] at handled
            exact (Option.some.inj handled).symm
          exact queues_published handles _ owned named room
  | ended | orphaned | dropped => exact ⟨rfl, queues_detach _ _ server.ctx⟩
  | closed | swept => exact absurd trivial silent
  | requested => exact ⟨rfl, queues_http room⟩
  | administered =>
      rename_i op
      cases op <;> exact ⟨rfl, rfl⟩
  | sent | passed | reinjected | persisted | added => cases own
  | _ => exact ⟨rfl, rfl⟩

end

section
variable (key : ChannelKey) (raw : RawFrame)

def Named (frame : Frame) : Prop := remoteKey frame = key ∧ frame.raw = raw

instance (frame : Frame) : Decidable (Named key raw frame) :=
  inferInstanceAs (Decidable (_ ∧ _))

def stored (redis : RedisStreams Message) : Nat :=
  ((RedisStreamsHistoryAdapter.since redis key 0).map (·.frame)).count raw

def queued (q : Queues) : Nat :=
  q.history.elim 0 fun outbound =>
    outbound.countP fun item => decide (item.1 = key ∧ item.2.frame = raw)

def passing (q : Queues) : Nat :=
  q.cluster.elim 0 fun outbound =>
    outbound.countP fun sent => (Frame.parse sent).toOption.any fun frame => Named key raw frame

def arriving (id : Uuid) (inbox : List (List UInt8)) : Nat :=
  inbox.countP fun payload => (remoteFrame id payload).any fun frame => Named key raw frame

structure Attached (q : Queues) : Prop where
  history : q.history.isSome = true
  cluster : q.cluster.isSome = true

variable {key raw}

theorem queued_record {q : Queues} (attached : Attached q) (frame : Frame) (own : ChannelKey) :
    queued key raw (q.record frame own) =
      queued key raw q + if own = key ∧ frame.raw = raw then 1 else 0 := by
  obtain ⟨outbound, there⟩ := Option.isSome_iff_exists.mp attached.history
  simp only [queued, Queues.record, there, Option.map_some, Option.elim_some, List.countP_append,
    List.countP_singleton, decide_eq_true_eq]

theorem passing_push {q : Queues} (attached : Attached q) (frame : Frame) (own : ChannelKey) :
    passing key raw (q.push frame own) = passing key raw q + if Named key raw frame then 1 else 0 := by
  obtain ⟨outbound, there⟩ := Option.isSome_iff_exists.mp attached.cluster
  simp only [passing, Queues.push, there, Option.map_some, Option.elim_some, List.countP_append,
    List.countP_singleton, Frame.parse_raw, Except.toOption, Option.any_some, decide_eq_true_eq]

theorem queued_cons {q : Queues} {item : ChannelKey × Message} {rest : List (ChannelKey × Message)}
    (there : q.history = some (item :: rest)) : queued key raw q =
      queued key raw { q with history := some rest } +
        if item.1 = key ∧ item.2.frame = raw then 1 else 0 := by
  simp only [queued, there, Option.elim_some, List.countP_cons, decide_eq_true_eq]

theorem passing_cons {q : Queues} {sent : RawFrame} {rest : List RawFrame}
    (there : q.cluster = some (sent :: rest)) : passing key raw q =
      passing key raw { q with cluster := some rest } +
        (Frame.parse sent).toOption.elim 0 fun frame => if Named key raw frame then 1 else 0 := by
  simp only [passing, there, Option.elim_some, List.countP_cons]
  cases (Frame.parse sent).toOption <;> simp

theorem arriving_cons (id : Uuid) (payload : List UInt8) (rest : List (List UInt8)) :
    arriving key raw id (payload :: rest) = arriving key raw id rest +
      (remoteFrame id payload).elim 0 fun frame => if Named key raw frame then 1 else 0 := by
  simp only [arriving, List.countP_cons]
  cases remoteFrame id payload <;> simp

theorem arriving_concat (id : Uuid) (payload : List UInt8) (inbox : List (List UInt8)) :
    arriving key raw id (inbox ++ [payload]) = arriving key raw id inbox +
      (remoteFrame id payload).elim 0 fun frame => if Named key raw frame then 1 else 0 := by
  rw [arriving, List.countP_append]
  exact congrArg (arriving key raw id inbox + ·) ((arriving_cons id payload []).trans (Nat.zero_add _))

theorem stored_xadd {redis redis' : RedisStreams Message} {maxlen : Nat} {own : ChannelKey}
    {id : Nat × Nat} {m : Message} (added : redis.xadd maxlen 0 own id m = some redis') :
    stored key raw redis' = stored key raw redis + if own = key ∧ m.frame = raw then 1 else 0 := by
  unfold RedisStreams.xadd at added
  simp only at added
  split at added
  · cases added
    by_cases here : own = key
    · subst here
      simp [stored, RedisStreamsHistoryAdapter.since, List.count_append, List.count_singleton]
    · have apart : streamKey key ≠ streamKey own := fun same => here (streamKey_injective same).symm
      simp [stored, RedisStreamsHistoryAdapter.since, apart, here]
  · cases added

end

theorem sum_update {ι : Type*} [Fintype ι] {f g : ι → Nat} (i : ι)
    (others : ∀ j, j ≠ i → g j = f j) : ∑ j, g j + f i = ∑ j, f j + g i := by
  classical
  have rest : ∑ j ∈ Finset.univ.erase i, g j = ∑ j ∈ Finset.univ.erase i, f j :=
    Finset.sum_congr rfl fun j member => others j (Finset.ne_of_mem_erase member)
  rw [← Finset.add_sum_erase _ f (Finset.mem_univ i), ← Finset.add_sum_erase _ g (Finset.mem_univ i), rest]
  omega

section
variable {ι : Type*} [Fintype ι] [DecidableEq ι] {envs : ι → Env} {key : ChannelKey} {raw : RawFrame}

def queuesAt (cluster : Cluster ι) (i : ι) : Queues := queues (cluster.instances i).ctx

/-- A step of a run of publishes in which nothing is dropped. -/
structure Publishing (envs : ι → Env) (cluster : Cluster ι) (e : ClusterEvent ι) : Prop where
  room : ∀ i, Room (queuesAt cluster i)
  silent : ∀ i own, e = .at i own → ¬ Announces (envs i) (cluster.server i) own
  untrimmed : ∀ i id evicted, e = .write i id evicted → evicted = 0

/-- The frame a client publishes in a step, with the key of the publish. -/
def published (envs : ι → Env) (cluster : Cluster ι) : ClusterEvent ι → Option (Frame × ChannelKey)
  | .at i e => clientPublish (envs i) (cluster.server i) e
  | _ => none

def direct (key : ChannelKey) (raw : RawFrame) (pair : Frame × ChannelKey) : Nat :=
  if pair.2 = key ∧ pair.1.raw = raw then 1 else 0

def elsewhere (key : ChannelKey) (raw : RawFrame) (pair : Frame × ChannelKey) : Nat :=
  if Named key raw pair.1 then 1 else 0

def load (envs : ι → Env) (key : ChannelKey) (raw : RawFrame) (cluster : Cluster ι) : Nat :=
  stored key raw cluster.redis +
    ∑ i, (queued key raw (queuesAt cluster i) + arriving key raw (envs i).instanceId (cluster.inbox i)) +
    (Fintype.card ι - 1) * ∑ i, passing key raw (queuesAt cluster i)

omit [Fintype ι] in
theorem queuesAt_setServer (cluster : Cluster ι) (i : ι) (server : Server) (j : ι) :
    queuesAt (cluster.setServer i server) j = if j = i then queues server.ctx else queuesAt cluster j := by
  show queues (Function.update cluster.instances i server j).ctx = _
  rw [Function.update_apply]
  split <;> rfl

theorem attached_push {q : Queues} (attached : Attached q) (frame : Frame) (own : ChannelKey) :
    Attached (q.push frame own) := by
  obtain ⟨history, cluster⟩ := attached
  constructor <;> simpa [Queues.push, Queues.record]

theorem queued_push {q : Queues} (attached : Attached q) (pair : Frame × ChannelKey) :
    queued key raw (q.push pair.1 pair.2) = queued key raw q + direct key raw pair :=
  queued_record attached pair.1 pair.2

omit [DecidableEq ι] in
theorem load_change {cluster cluster' : Cluster ι} (i : ι) (stays gains : Nat)
    (queuesSame : ∀ j, j ≠ i → queuesAt cluster' j = queuesAt cluster j)
    (inboxSame : ∀ j, j ≠ i → cluster'.inbox j = cluster.inbox j)
    (toStream : stored key raw cluster'.redis + (queued key raw (queuesAt cluster' i) +
        arriving key raw (envs i).instanceId (cluster'.inbox i)) =
      stored key raw cluster.redis + (queued key raw (queuesAt cluster i) +
        arriving key raw (envs i).instanceId (cluster.inbox i)) + stays)
    (toBus : passing key raw (queuesAt cluster' i) = passing key raw (queuesAt cluster i) + gains) :
    load envs key raw cluster' =
      load envs key raw cluster + (stays + (Fintype.card ι - 1) * gains) := by
  have waiting := sum_update (f := fun j => queued key raw (queuesAt cluster j) +
      arriving key raw (envs j).instanceId (cluster.inbox j))
    (g := fun j => queued key raw (queuesAt cluster' j) +
      arriving key raw (envs j).instanceId (cluster'.inbox j)) i
    fun j apart => by rw [queuesSame j apart, inboxSame j apart]
  have leaving := sum_update (f := fun j => passing key raw (queuesAt cluster j))
    (g := fun j => passing key raw (queuesAt cluster' j)) i
    fun j apart => by rw [queuesSame j apart]
  have total : ∑ j, passing key raw (queuesAt cluster' j) =
      ∑ j, passing key raw (queuesAt cluster j) + gains := by omega
  unfold load
  rw [total, Nat.mul_add]
  omega

theorem load_local {cluster cluster' : Cluster ι} {i : ι} {e : Event}
    (attached : ∀ i, Attached (queuesAt cluster i)) (meets : Publishing envs cluster (.at i e))
    (taken : Cluster.step envs cluster (.at i e) = some cluster') :
    (∀ i, Attached (queuesAt cluster' i)) ∧
    load envs key raw cluster' = load envs key raw cluster +
      (published envs cluster (.at i e)).elim 0 fun pair =>
        direct key raw pair + (Fintype.card ι - 1) * elsewhere key raw pair := by
  obtain ⟨own, server', stepped, rfl⟩ := Cluster.step_at taken
  obtain ⟨streams, moved⟩ := queues_step stepped (meets.room i) own (meets.silent i e rfl)
  have here : queuesAt (cluster.setServer i server') i = queues server'.ctx := by
    rw [queuesAt_setServer, if_pos rfl]
  have there : ∀ j, j ≠ i → queuesAt (cluster.setServer i server') j = queuesAt cluster j :=
    fun j apart => by rw [queuesAt_setServer, if_neg apart]
  have redis : (cluster.setServer i server').redis = cluster.redis := streams
  cases sent : clientPublish (envs i) (cluster.server i) e with
  | none =>
      have same : queuesAt (cluster.setServer i server') = queuesAt cluster := by
        funext j
        by_cases apart : j = i
        · rw [apart, here, moved, sent]
          rfl
        · exact there j apart
      have nothing : published envs cluster (.at i e) = none := sent
      refine ⟨by rw [same]; exact attached, ?_⟩
      rw [nothing, load, load, redis, same]
      rfl
  | some pair =>
      rw [sent, Option.elim_some] at moved
      have found : published envs cluster (.at i e) = some pair := sent
      refine ⟨fun j => ?_, ?_⟩
      · by_cases apart : j = i
        · rw [apart, here, moved]
          exact attached_push (attached i) pair.1 pair.2
        · rw [there j apart]
          exact attached j
      · rw [found, Option.elim_some]
        refine load_change i _ _ there (fun _ _ => rfl) ?_ ?_
        · have more : queued key raw _ = _ := queued_push (attached i) pair
          rw [here, moved, redis]
          show _ + (queued key raw ((queuesAt cluster i).push pair.1 pair.2) +
            arriving key raw _ (cluster.inbox i)) = _
          omega
        · rw [here, moved]
          exact passing_push (attached i) pair.1 pair.2

omit [Fintype ι] in
theorem attached_setServer {cluster : Cluster ι} {i : ι} {server : Server}
    (attached : ∀ i, Attached (queuesAt cluster i)) (own : Attached (queues server.ctx)) (j : ι) :
    Attached (queuesAt (cluster.setServer i server) j) := by
  rw [queuesAt_setServer]
  split
  · exact own
  · exact attached j

theorem load_moved {cluster : Cluster ι} {i : ι} {server : Server} (inbox : ι → List (List UInt8))
    (inboxSame : ∀ j, j ≠ i → inbox j = cluster.inbox j)
    (toStream : stored key raw server.redis + (queued key raw (queues server.ctx) +
        arriving key raw (envs i).instanceId (inbox i)) =
      stored key raw cluster.redis + (queued key raw (queuesAt cluster i) +
        arriving key raw (envs i).instanceId (cluster.inbox i)))
    (toBus : (queues server.ctx).cluster = (queuesAt cluster i).cluster) :
    load envs key raw { cluster.setServer i server with inbox := inbox } =
      load envs key raw cluster := by
  have here : queuesAt { cluster.setServer i server with inbox := inbox } i = queues server.ctx :=
    (queuesAt_setServer cluster i server i).trans (if_pos rfl)
  have changed : load envs key raw { cluster.setServer i server with inbox := inbox } =
      load envs key raw cluster + (0 + (Fintype.card ι - 1) * 0) := by
    refine load_change i 0 0 (fun j apart => ?_) inboxSame ?_ ?_
    · exact (queuesAt_setServer cluster i server j).trans (if_neg apart)
    · rw [here]
      exact toStream
    · rw [here, passing, toBus]
      rfl
  rwa [Nat.mul_zero] at changed

theorem load_receive {cluster cluster' : Cluster ι} {i : ι} {now : Clock}
    (attached : ∀ i, Attached (queuesAt cluster i)) (room : ∀ i, Room (queuesAt cluster i))
    (taken : Cluster.step envs cluster (.receive i now) = some cluster') :
    (∀ i, Attached (queuesAt cluster' i)) ∧
      load envs key raw cluster' = load envs key raw cluster := by
  obtain ⟨payload, server', first, moved, rfl⟩ := Cluster.step_receive taken
  obtain ⟨rest, there⟩ := List.head?_eq_some_iff.mp first
  have arrived : arriving key raw _ _ = _ := arriving_cons (envs i).instanceId payload rest
  have streams : server'.redis = cluster.redis := by rw [moved]; rfl
  have others : ∀ j, j ≠ i → Function.update cluster.inbox i (cluster.inbox i).tail j = cluster.inbox j :=
    fun j apart => Function.update_of_ne apart _ _
  cases received : remoteFrame (envs i).instanceId payload with
  | none =>
      rw [received, Option.elim_none] at moved arrived
      have after : queues server'.ctx = queuesAt cluster i := by rw [moved]; rfl
      refine ⟨attached_setServer attached (by rw [after]; exact attached i), ?_⟩
      refine load_moved _ others ?_ (by rw [after])
      rw [after, streams, Function.update_self, there, List.tail_cons]
      omega
  | some frame =>
      rw [received, Option.elim_some] at moved arrived
      have after : queues server'.ctx = (queuesAt cluster i).record frame (remoteKey frame) := by
        rw [moved]
        exact queues_reinject (room i) frame now
      have longer : queued key raw _ = queued key raw (queuesAt cluster i) +
        if Named key raw frame then 1 else 0 := queued_record (attached i) frame (remoteKey frame)
      refine ⟨attached_setServer attached ?_, load_moved _ others ?_ (by rw [after]; rfl)⟩
      · rw [after]
        exact ⟨by simpa [Queues.record] using (attached i).history, (attached i).cluster⟩
      · rw [after, streams, Function.update_self, there, List.tail_cons]
        omega

theorem load_write {cluster cluster' : Cluster ι} {i : ι} {id : Nat × Nat}
    (attached : ∀ i, Attached (queuesAt cluster i))
    (taken : Cluster.step envs cluster (.write i id 0) = some cluster') :
    (∀ i, Attached (queuesAt cluster' i)) ∧
      load envs key raw cluster' = load envs key raw cluster := by
  obtain ⟨own, m, rest, redis, port, added, rfl⟩ := Cluster.step_write taken
  have there : (queuesAt cluster i).history = some ((own, m) :: rest) := by
    rw [queuesAt, queues, port]
    rfl
  have shorter : queued key raw (queuesAt cluster i) =
      queued key raw ⟨some rest, (queuesAt cluster i).cluster⟩ +
        if own = key ∧ m.frame = raw then 1 else 0 := queued_cons there
  have longer : stored key raw redis = _ := stored_xadd added
  refine ⟨attached_setServer attached ⟨rfl, (attached i).cluster⟩, ?_⟩
  refine load_moved cluster.inbox (fun _ _ => rfl) ?_ rfl
  show stored key raw redis + (queued key raw ⟨some rest, (queuesAt cluster i).cluster⟩ +
    arriving key raw _ (cluster.inbox i)) = _
  omega

theorem load_forward {cluster cluster' : Cluster ι} {i : ι}
    (distinct : Function.Injective fun i => (envs i).instanceId)
    (attached : ∀ i, Attached (queuesAt cluster i))
    (taken : Cluster.step envs cluster (.forward i) = some cluster') :
    (∀ i, Attached (queuesAt cluster' i)) ∧
      load envs key raw cluster' = load envs key raw cluster := by
  obtain ⟨sent, rest, there, moved⟩ := Cluster.step_forward taken
  have here : ∀ j, queuesAt cluster' j =
      if j = i then { queuesAt cluster i with cluster := some rest } else queuesAt cluster j := by
    intro j
    rw [moved]
    exact queuesAt_setServer cluster i _ j
  have inbox : ∀ j, cluster'.inbox j = cluster.inbox j ++ [encodeEnvelope (envs i).instanceId sent] :=
    fun j => by rw [moved]
  have redis : cluster'.redis = cluster.redis := by
    rw [moved]
    rfl
  refine ⟨fun j => ?_, ?_⟩
  · rw [here]
    split
    · exact ⟨(attached i).history, rfl⟩
    · exact attached j
  have shorter : passing key raw (queuesAt cluster i) =
      passing key raw ⟨(queuesAt cluster i).history, some rest⟩ +
        (Frame.parse sent).toOption.elim 0 fun frame => if Named key raw frame then 1 else 0 :=
    passing_cons there
  generalize found : (Frame.parse sent).toOption.elim 0 (fun frame =>
    if Named key raw frame then 1 else 0) = more at shorter
  have arrived : ∀ j, arriving key raw (envs j).instanceId (cluster'.inbox j) =
      arriving key raw (envs j).instanceId (cluster.inbox j) + if j = i then 0 else more := by
    intro j
    rw [inbox, arriving_concat, remoteFrame_encodeEnvelope]
    by_cases same : j = i
    · rw [same, if_pos rfl, if_pos rfl]
      rfl
    · rw [if_neg fun equal => same (distinct equal).symm, if_neg same, found]
  have others : ∑ j, (if j = i then 0 else more) = (Fintype.card ι - 1) * more := by
    rw [← Finset.add_sum_erase _ _ (Finset.mem_univ i), if_pos rfl, Nat.zero_add,
      Finset.sum_const_nat fun j member => if_neg (Finset.ne_of_mem_erase member),
      Finset.card_erase_of_mem (Finset.mem_univ i), Finset.card_univ]
  have kept : ∀ j, queued key raw (queuesAt cluster' j) = queued key raw (queuesAt cluster j) := by
    intro j
    rw [here]
    split
    · rename_i same
      rw [same]
      rfl
    · rfl
  have waiting : ∑ j, (queued key raw (queuesAt cluster' j) +
        arriving key raw (envs j).instanceId (cluster'.inbox j)) =
      ∑ j, (queued key raw (queuesAt cluster j) +
        arriving key raw (envs j).instanceId (cluster.inbox j)) + (Fintype.card ι - 1) * more := by
    rw [← others, ← Finset.sum_add_distrib]
    exact Finset.sum_congr rfl fun j _ => by rw [arrived, kept, Nat.add_assoc]
  have leaving := sum_update (f := fun j => passing key raw (queuesAt cluster j))
    (g := fun j => passing key raw (queuesAt cluster' j)) i fun j apart => by rw [here, if_neg apart]
  have shortened : queuesAt cluster' i = ⟨(queuesAt cluster i).history, some rest⟩ :=
    (here i).trans (if_pos rfl)
  rw [shortened] at leaving
  have total : ∑ j, passing key raw (queuesAt cluster j) =
      ∑ j, passing key raw (queuesAt cluster' j) + more := by omega
  rw [load, load, redis, waiting, total, Nat.mul_add]
  omega

/-- The instances as they are before anything is published, or when every queue has been emptied. -/
structure Drained (cluster : Cluster ι) : Prop where
  queues : ∀ i, queuesAt cluster i = ⟨some [], some []⟩
  inbox : ∀ i, cluster.inbox i = []

omit [DecidableEq ι] in
theorem load_drained {cluster : Cluster ι} (drained : Drained cluster) :
    load envs key raw cluster = stored key raw cluster.redis := by
  simp [load, drained.queues, drained.inbox, queued, arriving, passing]

theorem load_step {cluster cluster' : Cluster ι} {e : ClusterEvent ι}
    (distinct : Function.Injective fun i => (envs i).instanceId)
    (attached : ∀ i, Attached (queuesAt cluster i)) (meets : Publishing envs cluster e)
    (taken : Cluster.step envs cluster e = some cluster') :
    (∀ i, Attached (queuesAt cluster' i)) ∧
    load envs key raw cluster' = load envs key raw cluster +
      (published envs cluster e).elim 0 fun pair =>
        direct key raw pair + (Fintype.card ι - 1) * elsewhere key raw pair := by
  cases e with
  | «at» i e => exact load_local attached meets taken
  | forward i => exact load_forward distinct attached taken
  | receive i now => exact load_receive attached meets.room taken
  | write i id evicted =>
      obtain rfl := meets.untrimmed i id evicted rfl
      exact load_write attached taken

/-- What clients publish in a run, with the keys. -/
def publishes (envs : ι → Env) (first : Cluster ι) (es : List (ClusterEvent ι)) :
    List (Frame × ChannelKey) :=
  Step.observed (Cluster.step envs) (published envs) first es

theorem load_run {first last : Cluster ι} {es : List (ClusterEvent ι)}
    (distinct : Function.Injective fun i => (envs i).instanceId)
    (attached : ∀ i, Attached (queuesAt first i))
    (meets : (Cluster.step envs).Meets (Publishing envs) first es)
    (reached : (Cluster.step envs).run first es = some last) :
    load envs key raw last = load envs key raw first +
      ((publishes envs first es).map fun pair =>
        direct key raw pair + (Fintype.card ι - 1) * elsewhere key raw pair).sum := by
  induction es generalizing first with
  | nil =>
      rw [Step.run_nil, Option.some.injEq] at reached
      rw [reached]
      rfl
  | cons e es ih =>
      obtain ⟨next, taken, rest⟩ := Step.run_cons_iff.mp reached
      obtain ⟨now, later⟩ := meets
      obtain ⟨still, more⟩ := load_step distinct attached now taken
      have seen : publishes envs first (e :: es) =
          (published envs first e).toList ++ publishes envs next es := by
        simp [publishes, Step.observed, taken]
      rw [ih still (later next taken) rest, more, seen]
      cases published envs first e with
      | none => rfl
      | some pair =>
          simp only [Option.toList_some, List.singleton_append, List.map_cons, List.sum_cons,
            Option.elim_some]
          exact Nat.add_assoc _ _ _

omit [Fintype ι] [DecidableEq ι] in
theorem sum_counts (pairs : List (Frame × ChannelKey)) (others : Nat) :
    (pairs.map fun pair => direct key raw pair + others * elsewhere key raw pair).sum =
      ((pairs.filter (·.2 = key)).map (·.1.raw)).count raw +
        others * (pairs.map (elsewhere key raw)).sum := by
  induction pairs with
  | nil => rfl
  | cons pair pairs ih =>
      rw [List.map_cons, List.sum_cons, ih, List.map_cons, List.sum_cons, Nat.mul_add]
      by_cases own : pair.2 = key
      · by_cases same : pair.1.raw = raw
        · simp [direct, own, same]
          omega
        · simp [direct, own, same]
          omega
      · simp [direct, own]
        omega

omit [Fintype ι] [DecidableEq ι] in
theorem elsewhere_eq_zero {pairs : List (Frame × ChannelKey)} :
    (∀ raw, (pairs.map (elsewhere key raw)).sum = 0) ↔ ∀ pair ∈ pairs, remoteKey pair.1 ≠ key := by
  simp only [List.sum_eq_zero_iff, List.mem_map, forall_exists_index, and_imp, forall_apply_eq_imp_iff₂]
  constructor
  · intro none pair member named
    have once := none pair.1.raw pair member
    rw [elsewhere, if_pos ⟨named, rfl⟩] at once
    cases once
  · intro apart raw pair member
    exact if_neg fun named => apart pair member named.1

/-- Once the queues have been emptied, the stream of a key holds what clients published on it, each frame
as often as it was published, exactly when there is one instance or no frame names the key. -/
theorem recorded_once_iff {first last : Cluster ι} {es : List (ClusterEvent ι)}
    (distinct : Function.Injective fun i => (envs i).instanceId) (opened : Drained first)
    (empty : ∀ name, first.redis name = [])
    (meets : (Cluster.step envs).Meets (Publishing envs) first es)
    (reached : (Cluster.step envs).run first es = some last) (drained : Drained last) (key : ChannelKey) :
    ((RedisStreamsHistoryAdapter.since last.redis key 0).map (·.frame)).Perm
        (((publishes envs first es).filter (·.2 = key)).map (·.1.raw)) ↔
      Fintype.card ι ≤ 1 ∨ ∀ pair ∈ publishes envs first es, remoteKey pair.1 ≠ key := by
  have attached : ∀ i, Attached (queuesAt first i) := fun i => by
    rw [opened.queues]
    exact ⟨rfl, rfl⟩
  have kept : ∀ raw, stored key raw last.redis =
      (((publishes envs first es).filter (·.2 = key)).map (·.1.raw)).count raw +
        (Fintype.card ι - 1) * ((publishes envs first es).map (elsewhere key raw)).sum := by
    intro raw
    have total : load envs key raw last = _ := load_run distinct attached meets reached
    have nothing : stored key raw first.redis = 0 := by
      simp [stored, RedisStreamsHistoryAdapter.since, empty]
    rwa [load_drained drained, load_drained opened, nothing, Nat.zero_add, sum_counts] at total
  have extra : ((RedisStreamsHistoryAdapter.since last.redis key 0).map (·.frame)).Perm
      (((publishes envs first es).filter (·.2 = key)).map (·.1.raw)) ↔
      ∀ raw, (Fintype.card ι - 1) * ((publishes envs first es).map (elsewhere key raw)).sum = 0 := by
    rw [List.perm_iff_count]
    refine forall_congr' fun raw => ?_
    have here := kept raw
    unfold stored at here
    omega
  rw [extra]
  by_cases alone : Fintype.card ι ≤ 1
  · have none : Fintype.card ι - 1 = 0 := by omega
    simp [alone, none]
  · rw [or_iff_right alone, ← elsewhere_eq_zero]
    refine forall_congr' fun raw => ?_
    rw [Nat.mul_eq_zero]
    exact or_iff_right (by omega)

end

section Sample
open SampleToken Sample ClusterRouting

def twoEnvs (second : Bool) : Env := { env with instanceId := instanceIds second }

def greetingKey : ChannelKey := ⟨tenantOne, "room"⟩

def greetingMessage : Message := ⟨greetingParsed.raw, greetingKey⟩

def twoInstances : Cluster Bool where
  instances _ := started true
  redis _ := []
  inbox _ := []

def greetingEvents : List (ClusterEvent Bool) :=
  [.at false (.http greeting epoch), .forward false, .receive false epoch, .receive true epoch,
    .write false (1, 0) 0, .write true (2, 0) 0]

theorem published_greeting :
    published twoEnvs twoInstances (.at false (.http greeting epoch)) =
      some (greetingParsed, greetingKey) := by
  have text : publishedText (twoEnvs false) greeting epoch (started true).ctx = some "hi" := by
    decide +kernel
  have parsed : Frame.parse (greeting.builder "hi").build = .ok greetingParsed :=
    FrameBuilder.parse_build _ _
  exact clientPublish_of_http text parsed

structure Holds (cluster : Cluster Bool) (first second : List (ChannelKey × Message))
    (bus : List RawFrame) (inboxes : Bool → List (List UInt8)) (entries : List (StreamEntry Message)) :
    Prop where
  first : queuesAt cluster false = ⟨some first, some bus⟩
  second : queuesAt cluster true = ⟨some second, some []⟩
  inbox : cluster.inbox = inboxes
  redis : cluster.redis (streamKey greetingKey) = entries

section
variable {cluster : Cluster Bool} {first second : List (ChannelKey × Message)} {bus : List RawFrame}
  {inboxes : Bool → List (List UInt8)} {entries : List (StreamEntry Message)}

theorem room_of_small {history : List (ChannelKey × Message)} (small : history.length < 2)
    (few : bus.length < 2) : Room ⟨some history, some bus⟩ := by
  have capacity : 2 < outboundQueueCapacity := by decide
  exact ⟨fun _ same => Option.some.inj same ▸ by omega, fun _ same => Option.some.inj same ▸ by omega⟩

theorem Holds.publishing (holds : Holds cluster first second bus inboxes entries)
    (small : first.length < 2 ∧ second.length < 2 ∧ bus.length < 2) {e : ClusterEvent Bool}
    (member : e ∈ greetingEvents) : Publishing twoEnvs cluster e := by
  refine ⟨fun i => ?_, fun i own same => ?_, fun i id evicted same => ?_⟩
  · cases i with
    | false =>
        rw [holds.first]
        exact room_of_small small.1 small.2.2
    | true =>
        rw [holds.second]
        exact room_of_small small.2.1 (by decide)
  · subst same
    simp only [greetingEvents, List.mem_cons, List.not_mem_nil, reduceCtorEq, or_false,
      ClusterEvent.at.injEq] at member
    rw [member.2]
    exact id
  · subst same
    simp only [greetingEvents, List.mem_cons, List.not_mem_nil, reduceCtorEq, or_false, false_or,
      ClusterEvent.write.injEq] at member
    rcases member with written | written
    · exact written.2.2
    · exact written.2.2

theorem Holds.forward {raw : RawFrame} (holds : Holds cluster first second (raw :: bus) inboxes entries) :
    ∃ next, Cluster.step twoEnvs cluster (.forward false) = some next ∧ Holds next first second bus
      (fun j => inboxes j ++ [encodeEnvelope (instanceIds false) raw]) entries := by
  have there : (cluster.instances false).ctx.pushFallback.cluster = some (raw :: bus) :=
    congrArg Queues.cluster holds.first
  have possible : ∃ next, Cluster.step twoEnvs cluster (.forward false) = some next :=
    Cluster.can_forward there
  obtain ⟨next, taken⟩ := possible
  refine ⟨next, taken, ?_⟩
  obtain ⟨sent, rest, found, rfl⟩ := Cluster.step_forward taken
  rw [there] at found
  obtain ⟨rfl, rfl⟩ := List.cons.inj (Option.some.inj found)
  refine ⟨?_, holds.second, funext fun j => ?_, holds.redis⟩
  · show (⟨(queuesAt cluster false).history, some bus⟩ : Queues) = _
    rw [holds.first]
  · show cluster.inbox j ++ _ = _
    rw [holds.inbox]
    rfl

theorem Holds.ignore {payload : List UInt8} {rest : List (List UInt8)}
    (holds : Holds cluster first second bus inboxes entries) (there : inboxes false = payload :: rest)
    (own : remoteFrame (instanceIds false) payload = none) :
    ∃ next, Cluster.step twoEnvs cluster (.receive false epoch) = some next ∧
      Holds next first second bus (Function.update inboxes false rest) entries := by
  have joined : (cluster.instances false).ctx.pushFallback.cluster = some bus :=
    congrArg Queues.cluster holds.first
  have waits : cluster.inbox false = payload :: rest := by rw [holds.inbox, there]
  have possible : ∃ next, Cluster.step twoEnvs cluster (.receive false epoch) = some next :=
    Cluster.can_receive epoch (by rw [joined]; rfl) waits
  obtain ⟨next, taken⟩ := possible
  refine ⟨next, taken, ?_⟩
  obtain ⟨received, server', head, moved, rfl⟩ := Cluster.step_receive taken
  rw [waits, List.head?_cons] at head
  obtain rfl := Option.some.inj head
  have silent : remoteFrame (twoEnvs false).instanceId payload = none := own
  rw [silent, Option.elim_none] at moved
  subst moved
  refine ⟨holds.first, holds.second, ?_, holds.redis⟩
  show Function.update cluster.inbox false (cluster.inbox false).tail = _
  rw [holds.inbox, there]
  rfl

theorem Holds.take {payload : List UInt8} {rest : List (List UInt8)}
    (holds : Holds cluster first second bus inboxes entries) (small : second.length < 2)
    (there : inboxes true = payload :: rest)
    (foreign : remoteFrame (instanceIds true) payload = some greetingParsed) :
    ∃ next, Cluster.step twoEnvs cluster (.receive true epoch) = some next ∧
      Holds next first (second ++ [(greetingKey, greetingMessage)]) bus
        (Function.update inboxes true rest) entries := by
  have joined : (cluster.instances true).ctx.pushFallback.cluster = some [] :=
    congrArg Queues.cluster holds.second
  have waits : cluster.inbox true = payload :: rest := by rw [holds.inbox, there]
  have possible : ∃ next, Cluster.step twoEnvs cluster (.receive true epoch) = some next :=
    Cluster.can_receive epoch (by rw [joined]; rfl) waits
  obtain ⟨next, taken⟩ := possible
  refine ⟨next, taken, ?_⟩
  obtain ⟨received, server', head, moved, rfl⟩ := Cluster.step_receive taken
  rw [waits, List.head?_cons] at head
  obtain rfl := Option.some.inj head
  have parsed : remoteFrame (twoEnvs true).instanceId payload = some greetingParsed := foreign
  rw [parsed, Option.elim_some] at moved
  subst moved
  have room : Room (queuesAt cluster true) := by
    rw [holds.second]
    exact room_of_small small (by decide)
  refine ⟨holds.first, ?_, ?_, holds.redis⟩
  · show queues (reinject greetingParsed epoch (cluster.instances true).ctx) = _
    rw [queues_reinject room]
    show (queuesAt cluster true).record greetingParsed (remoteKey greetingParsed) = _
    rw [holds.second]
    rfl
  · show Function.update cluster.inbox true (cluster.inbox true).tail = _
    rw [holds.inbox, there]
    rfl

theorem write_taken {i : Bool} {m : Message} {rest : List (ChannelKey × Message)} {sent : List RawFrame}
    (id : Nat × Nat) (there : queuesAt cluster i = ⟨some ((greetingKey, m) :: rest), some sent⟩)
    (stream : cluster.redis (streamKey greetingKey) = entries)
    (fresh : entries.all (fun e => idBefore e.id id) = true) :
    ∃ next, Cluster.step twoEnvs cluster (.write i id 0) = some next ∧
      (∀ j, queuesAt next j = if j = i then ⟨some rest, some sent⟩ else queuesAt cluster j) ∧
      next.inbox = cluster.inbox ∧ next.redis (streamKey greetingKey) = entries ++ [⟨id, m⟩] := by
  obtain ⟨⟨outbound⟩, port, same⟩ := Option.map_eq_some_iff.mp (congrArg Queues.history there)
  change outbound = (greetingKey, m) :: rest at same
  subst same
  have possible : ∃ next, Cluster.step twoEnvs cluster (.write i id 0) = some next :=
    Cluster.can_write port (by rw [stream]; exact fresh)
  obtain ⟨next, taken⟩ := possible
  refine ⟨next, taken, ?_⟩
  obtain ⟨key, m', rest', redis, port', added, rfl⟩ := Cluster.step_write taken
  rw [port] at port'
  obtain ⟨same, rfl⟩ := List.cons.inj (congrArg RedisStreamsHistoryAdapter.outbound (Option.some.inj port'))
  obtain ⟨rfl, rfl⟩ := Prod.mk.inj same
  refine ⟨fun j => ?_, rfl, ?_⟩
  · rw [queuesAt_setServer]
    split
    · show (⟨some rest, (queuesAt cluster i).cluster⟩ : Queues) = _
      rw [there]
    · rfl
  · show redis (streamKey greetingKey) = _
    unfold RedisStreams.xadd at added
    rw [stream] at added
    simp only [fresh, beq_self_eq_true, Bool.true_or, Bool.and_self, if_true, List.drop_zero,
      Option.some.injEq] at added
    rw [← added, Function.update_self]

end

theorem greet : ∃ next, Cluster.step twoEnvs twoInstances (.at false (.http greeting epoch)) = some next ∧
    Holds next [(greetingKey, greetingMessage)] [] [greetingParsed.raw] (fun _ => []) [] := by
  refine ⟨twoInstances.setServer false ((twoInstances.server false).setCtx
    (httpStep (twoEnvs false) greeting epoch (twoInstances.server false).ctx)), rfl, ?_, rfl, rfl, rfl⟩
  have room : Room (queues (twoInstances.server false).ctx) := room_of_small (by decide) (by decide)
  have sent : clientPublish (twoEnvs false) (twoInstances.server false) (.http greeting epoch) =
    some (greetingParsed, greetingKey) := published_greeting
  show queues (httpStep (twoEnvs false) greeting epoch (twoInstances.server false).ctx) = _
  rw [queues_http room, sent]
  rfl

theorem run_greeting : ∃ last, (Cluster.step twoEnvs).run twoInstances greetingEvents = some last ∧
    (Cluster.step twoEnvs).Meets (Publishing twoEnvs) twoInstances greetingEvents ∧ Drained last ∧
    last.redis (streamKey greetingKey) = [⟨(1, 0), greetingMessage⟩, ⟨(2, 0), greetingMessage⟩] := by
  have start : Holds twoInstances [] [] [] (fun _ => []) [] := ⟨rfl, rfl, rfl, rfl⟩
  obtain ⟨greeted, step₁, holds₁⟩ := greet
  obtain ⟨sent, step₂, holds₂⟩ := holds₁.forward
  have own : remoteFrame (instanceIds false) (encodeEnvelope (instanceIds false) greetingParsed.raw) = none := by
    rw [remoteFrame_encodeEnvelope, if_pos rfl]
  obtain ⟨ignored, step₃, holds₃⟩ := holds₂.ignore rfl own
  have foreign : remoteFrame (instanceIds true) (encodeEnvelope (instanceIds false) greetingParsed.raw) =
      some greetingParsed := remoteFrame_other instanceIds_injective (by decide) greetingParsed
  obtain ⟨received, step₄, holds₄⟩ := holds₃.take (by decide) rfl foreign
  obtain ⟨recorded, step₅, queues₅, inbox₅, redis₅⟩ :=
    write_taken (1, 0) holds₄.first holds₄.redis rfl
  have second : queuesAt recorded true = ⟨some [(greetingKey, greetingMessage)], some []⟩ := by
    rw [queues₅, if_neg (by decide), holds₄.second]
    rfl
  obtain ⟨last, step₆, queues₆, inbox₆, redis₆⟩ :=
    write_taken (2, 0) second redis₅ (by decide)
  have holds₅ : Holds recorded [] [(greetingKey, greetingMessage)] [] _ _ :=
    ⟨by rw [queues₅, if_pos rfl], second, inbox₅.trans holds₄.inbox, redis₅⟩
  refine ⟨last, ?_, ?_, ⟨fun i => ?_, fun i => ?_⟩, redis₆⟩
  · simp only [greetingEvents, Step.run, step₁, step₂, step₃, step₄, step₅, step₆, Option.bind_some]
  · simp only [greetingEvents, Step.Meets, step₁, step₂, step₃, step₄, step₅, Option.some.injEq,
      forall_eq', implies_true, and_true]
    exact ⟨start.publishing (by decide) (by simp [greetingEvents]),
      holds₁.publishing (by simp) (by simp [greetingEvents]),
      holds₂.publishing (by simp) (by simp [greetingEvents]),
      holds₃.publishing (by simp) (by simp [greetingEvents]),
      holds₄.publishing (by simp) (by simp [greetingEvents]),
      holds₅.publishing (by simp) (by simp [greetingEvents])⟩
  · rw [queues₆]
    cases i with
    | false =>
        rw [if_neg (by decide)]
        exact holds₅.first
    | true => exact if_pos rfl
  · rw [inbox₆, inbox₅, holds₄.inbox]
    cases i <;> rfl

theorem twoEnvs_distinct : Function.Injective fun i => (twoEnvs i).instanceId := instanceIds_injective

theorem drained_twoInstances : Drained twoInstances := ⟨fun _ => rfl, fun _ => rfl⟩

theorem publishes_greeting : publishes twoEnvs twoInstances greetingEvents = [(greetingParsed, greetingKey)] := by
  obtain ⟨next, taken, _⟩ := greet
  have silent : ∀ (es : List (ClusterEvent Bool)), (∀ e ∈ es, ∀ i own, e ≠ .at i own) →
      ∀ cluster, publishes twoEnvs cluster es = [] := by
    intro es quiet cluster
    induction es generalizing cluster with
    | nil => rfl
    | cons e es ih =>
        have nothing : published twoEnvs cluster e = none := by
          cases e with
          | «at» i own => exact absurd rfl (quiet _ List.mem_cons_self i own)
          | _ => rfl
        have later := ih fun d member => quiet d (List.mem_cons_of_mem e member)
        rw [publishes, Step.observed, nothing]
        cases Cluster.step twoEnvs cluster e with
        | none => rfl
        | some after => exact later after
  rw [publishes, greetingEvents, Step.observed, published_greeting, taken]
  exact congrArg ([(greetingParsed, greetingKey)] ++ ·) (silent _ (by simp) next)

theorem recorded_once_greeting : ∃ last,
    (Cluster.step twoEnvs).run twoInstances greetingEvents = some last ∧
    (((RedisStreamsHistoryAdapter.since last.redis greetingKey 0).map (·.frame)).Perm
        (((publishes twoEnvs twoInstances greetingEvents).filter (·.2 = greetingKey)).map (·.1.raw)) ↔
      Fintype.card Bool ≤ 1 ∨
        ∀ pair ∈ publishes twoEnvs twoInstances greetingEvents, remoteKey pair.1 ≠ greetingKey) := by
  obtain ⟨last, reached, meets, drained, _⟩ := run_greeting
  exact ⟨last, reached, recorded_once_iff twoEnvs_distinct drained_twoInstances (fun _ => rfl) meets reached drained
    greetingKey⟩

theorem broadcast_recorded_twice :
    ¬ ∀ (ι : Type) (_ : Fintype ι) (_ : DecidableEq ι) (envs : ι → Env) (first last : Cluster ι)
      (es : List (ClusterEvent ι)), Function.Injective (fun i => (envs i).instanceId) → Drained first →
      (∀ name, first.redis name = []) → (Cluster.step envs).Meets (Publishing envs) first es →
      (Cluster.step envs).run first es = some last → Drained last → ∀ key,
        ((RedisStreamsHistoryAdapter.since last.redis key 0).map (·.frame)).Perm
          (((publishes envs first es).filter (·.2 = key)).map (·.1.raw)) := by
  intro claim
  obtain ⟨last, reached, meets, drained, entries⟩ := run_greeting
  have once := claim Bool inferInstance inferInstance twoEnvs twoInstances last greetingEvents
    twoEnvs_distinct drained_twoInstances (fun _ => rfl) meets reached drained greetingKey
  have lengths := once.length_eq
  rw [publishes_greeting] at lengths
  simp [RedisStreamsHistoryAdapter.since, entries] at lengths

end Sample

end RealtimePlatform.Proof.HistoryOnce
