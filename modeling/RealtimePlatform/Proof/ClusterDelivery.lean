import RealtimePlatform.Backend.FailingBus
import RealtimePlatform.Backend.PushSide
import RealtimePlatform.Proof.HistoryOnce

namespace RealtimePlatform.Proof.ClusterDelivery
open Library Backend Backend.Server Backend.UseCases

section
variable {ι : Type*} [DecidableEq ι] (envs : ι → Env) (i j : ι)

def outbound (cluster : Cluster ι) : Option (List RawFrame) :=
  (cluster.instances i).ctx.pushFallback.cluster

/-- The frame that the clients of instance `i` hand to the bus in a step: one published while the
outbound queue has room. -/
def accepted (cluster : Cluster ι) : ClusterEvent ι → Option Frame
  | .at k e =>
    if k = i then
      if (outbound i cluster).any (·.length < outboundQueueCapacity) then
        (clientPublish (envs i) (cluster.server i) e).map (·.1)
      else none
    else none
  | _ => none

/-- The frame that an instance re-injects for a payload of the given origin. -/
def arrival (origin own : Uuid) (payload : List UInt8) : Option Frame :=
  if (decodeEnvelope payload).any (·.1 = origin) then remoteFrame own payload else none

def reinjected (cluster : Cluster ι) : ClusterEvent ι → Option Frame
  | .receive k _ =>
    if k = j then
      (cluster.inbox j).head?.bind (arrival (envs i).instanceId (envs j).instanceId)
    else none
  | _ => none

def parsed (raw : RawFrame) : Option Frame := (Frame.parse raw).toOption

/-- What is between the two instances: in the inbox of the one, then on the queue of the other. -/
def inTransit (cluster : Cluster ι) : List Frame :=
  (cluster.inbox j).filterMap (arrival (envs i).instanceId (envs j).instanceId) ++
    ((outbound i cluster).getD []).filterMap parsed

end

theorem arrival_encodeEnvelope {origin own sender : Uuid} (apart : origin ≠ own) (raw : RawFrame) :
    arrival origin own (encodeEnvelope sender raw) = if sender = origin then parsed raw else none := by
  simp only [arrival, decodeEnvelope_encodeEnvelope, Option.any_some, decide_eq_true_eq,
    remoteFrame_encodeEnvelope]
  by_cases same : sender = origin
  · simp [same, apart, parsed]
  · simp [same]

theorem parsed_raw (frame : Frame) : parsed frame.raw = some frame := by
  rw [parsed, Frame.parse_raw]
  rfl

section
variable {ι : Type*} [DecidableEq ι] {envs : ι → Env} {cluster cluster' : Cluster ι} {i j k : ι}

theorem outbound_setServer (cluster : Cluster ι) (k i : ι) (server : Server) :
    outbound i (cluster.setServer k server) =
      if i = k then server.ctx.pushFallback.cluster else outbound i cluster := by
  simp only [outbound, Cluster.setServer, Function.update_apply]
  split <;> rfl

theorem outbound_at {e : Event} (taken : Cluster.step envs cluster (.at k e) = some cluster') :
    cluster'.inbox = cluster.inbox ∧ outbound i cluster' =
      if k = i then (clientPublish (envs i) (cluster.server i) e).elim (outbound i cluster) fun pair =>
        (outbound i cluster).map (RealtimeContext.broadcast pair.1.raw)
      else outbound i cluster := by
  obtain ⟨own, server', moved, rfl⟩ := Cluster.step_at taken
  refine ⟨rfl, ?_⟩
  rw [outbound_setServer]
  by_cases here : k = i
  · subst here
    have side := step_pushSide moved fun sends => by simp [sends, Cluster.isLocal] at own
    have queue := congrArg (fun side => side.service.cluster) side
    simp only [if_pos]
    cases published : clientPublish (envs k) (cluster.server k) e with
    | none =>
        rw [published] at queue
        exact queue
    | some pair =>
        rw [published] at queue
        exact queue
  · rw [if_neg here, if_neg fun same => here same.symm]

theorem outbound_forward (taken : Cluster.step envs cluster (.forward k) = some cluster') :
    ∃ raw rest, outbound k cluster = some (raw :: rest) ∧
      (∀ i, outbound i cluster' = if i = k then some rest else outbound i cluster) ∧
      ∀ j, cluster'.inbox j = cluster.inbox j ++ [encodeEnvelope (envs k).instanceId raw] := by
  obtain ⟨raw, rest, there, rfl⟩ := Cluster.step_forward taken
  exact ⟨raw, rest, there, fun i => outbound_setServer cluster k i _, fun _ => rfl⟩

theorem outbound_receive {now : Clock}
    (taken : Cluster.step envs cluster (.receive k now) = some cluster') :
    (∀ i, outbound i cluster' = outbound i cluster) ∧
      ∃ payload rest, cluster.inbox k = payload :: rest ∧
        cluster'.inbox = Function.update cluster.inbox k rest := by
  obtain ⟨payload, server', first, moved, rfl⟩ := Cluster.step_receive taken
  obtain ⟨rest, there⟩ := List.head?_eq_some_iff.mp first
  have kept : server'.ctx.pushFallback.cluster = outbound k cluster := by
    rw [moved]
    cases remoteFrame (envs k).instanceId payload <;> rfl
  constructor
  · intro i
    have changed := outbound_setServer cluster k i server'
    by_cases here : i = k
    · subst here
      rw [if_pos rfl, kept] at changed
      exact changed
    · rw [if_neg here] at changed
      exact changed
  · refine ⟨payload, rest, there, ?_⟩
    show Function.update cluster.inbox k (cluster.inbox k).tail = _
    rw [there, List.tail_cons]

theorem outbound_write {id : Nat × Nat} {evicted : Nat}
    (taken : Cluster.step envs cluster (.write k id evicted) = some cluster') :
    (∀ i, outbound i cluster' = outbound i cluster) ∧ cluster'.inbox = cluster.inbox := by
  obtain ⟨key, m, rest, redis, _, _, rfl⟩ := Cluster.step_write taken
  refine ⟨fun i => ?_, rfl⟩
  rw [outbound_setServer]
  split
  · rename_i here
    rw [here]
    rfl
  · rfl

theorem inTransit_at {e : Event} (taken : Cluster.step envs cluster (.at k e) = some cluster') :
    inTransit envs i j cluster' =
      inTransit envs i j cluster ++ (accepted envs i cluster (.at k e)).toList := by
  obtain ⟨inbox, queue⟩ := outbound_at (i := i) taken
  simp only [inTransit, inbox, queue, accepted]
  by_cases here : k = i
  · simp only [here, if_true]
    cases published : clientPublish (envs i) (cluster.server i) e with
    | none => simp
    | some pair =>
        cases there : outbound i cluster with
        | none => simp
        | some frames =>
            by_cases room : frames.length < outboundQueueCapacity
            · simp [RealtimeContext.broadcast, room, parsed_raw]
            · simp [RealtimeContext.broadcast, room]
  · simp [here]

theorem inTransit_forward (distinct : Function.Injective fun i => (envs i).instanceId) (apart : i ≠ j)
    (taken : Cluster.step envs cluster (.forward k) = some cluster') :
    inTransit envs i j cluster' = inTransit envs i j cluster := by
  obtain ⟨raw, rest, there, queues, inboxes⟩ := outbound_forward taken
  have ids : (envs i).instanceId ≠ (envs j).instanceId := fun same => apart (distinct same)
  simp only [inTransit, queues, inboxes, List.filterMap_append, List.append_assoc]
  congr 1
  by_cases here : i = k
  · subst here
    simp only [there, if_true, Option.getD_some, List.filterMap_cons, List.filterMap_nil,
      arrival_encodeEnvelope ids]
    cases parsed raw <;> rfl
  · have other : (envs k).instanceId ≠ (envs i).instanceId := fun same => here (distinct same).symm
    simp [here, arrival_encodeEnvelope ids, other]

theorem inTransit_receive {now : Clock}
    (taken : Cluster.step envs cluster (.receive k now) = some cluster') :
    inTransit envs i j cluster =
      (reinjected envs i j cluster (.receive k now)).toList ++ inTransit envs i j cluster' := by
  obtain ⟨queues, payload, rest, there, inboxes⟩ := outbound_receive taken
  simp only [inTransit, queues, inboxes, reinjected, Function.update_apply]
  by_cases here : k = j
  · subst here
    simp only [there, if_true, List.head?_cons, Option.bind_some, List.filterMap_cons]
    cases arrival (envs i).instanceId (envs k).instanceId payload <;> simp
  · simp [here, Ne.symm here]

theorem conserved_step {e : ClusterEvent ι} (distinct : Function.Injective fun i => (envs i).instanceId)
    (apart : i ≠ j) (taken : Cluster.step envs cluster e = some cluster') :
    inTransit envs i j cluster ++ (accepted envs i cluster e).toList =
      (reinjected envs i j cluster e).toList ++ inTransit envs i j cluster' := by
  cases e with
  | «at» k e => simpa [reinjected] using (inTransit_at (j := j) taken).symm
  | forward k => simpa [reinjected, accepted] using (inTransit_forward distinct apart taken).symm
  | receive k now => simpa [accepted] using inTransit_receive taken
  | write k id evicted =>
      obtain ⟨queues, inboxes⟩ := outbound_write taken
      simp [inTransit, queues, inboxes, reinjected, accepted]

end

section
variable {ι : Type*} [DecidableEq ι] (envs : ι → Env) (i j : ι)

def heading (cluster : Cluster ι) : Option Frame := ((outbound i cluster).bind List.head?).bind parsed

def given (bus : FailingBus ι) : BusEvent ι → Option Frame
  | .of e => accepted envs i bus.cluster e
  | _ => none

def taken (bus : FailingBus ι) : BusEvent ι → Option Frame
  | .of e => reinjected envs i j bus.cluster e
  | _ => none

/-- The frame of instance `i` that a step keeps from instance `j`: its PUBLISH fails, or `j` has stopped listening. -/
def lost (bus : FailingBus ι) : BusEvent ι → Option Frame
  | .sendFailed k => if k = i then heading i bus.cluster else none
  | .of (.forward k) => if k = i ∧ bus.ended j = true then heading i bus.cluster else none
  | _ => none

end

section
variable {ι : Type*} [DecidableEq ι] {envs : ι → Env} {bus next : FailingBus ι} {i j k : ι}

theorem outbound_sendFailed (stepped : FailingBus.step envs bus (.sendFailed k) = some next) :
    (∃ raw rest, outbound k bus.cluster = some (raw :: rest) ∧
      ∀ i, outbound i next.cluster = if i = k then some rest else outbound i bus.cluster) ∧
    next.cluster.inbox = bus.cluster.inbox := by
  obtain ⟨server, sent, rfl⟩ := Option.map_eq_some_iff.mp stepped
  refine ⟨?_, rfl⟩
  change (bus.cluster.server k).clusterSendStep = some server at sent
  unfold clusterSendStep at sent
  split at sent
  · rename_i raw rest queue
    cases sent
    exact ⟨raw, rest, queue, fun i => outbound_setServer bus.cluster k i _⟩
  · cases sent

omit [DecidableEq ι] in
theorem inTransit_headed {cluster cluster' : Cluster ι} {raw : RawFrame} {rest : List RawFrame}
    (before : outbound i cluster = some (raw :: rest)) (after : outbound i cluster' = some rest)
    (inbox : cluster'.inbox j = cluster.inbox j) :
    (inTransit envs i j cluster').Sublist (inTransit envs i j cluster) ∧
      (inTransit envs i j cluster' ++ (heading i cluster).toList).Perm (inTransit envs i j cluster) := by
  have head : (raw :: rest).filterMap parsed = (heading i cluster).toList ++ rest.filterMap parsed := by
    rw [heading, before, Option.bind_some, List.head?_cons, Option.bind_some, List.filterMap_cons]
    cases parsed raw <;> rfl
  simp only [inTransit, before, after, inbox, Option.getD_some, head]
  constructor
  · exact (List.sublist_append_right _ _).append_left _
  · rw [List.append_assoc]
    exact List.perm_append_comm.append_left _

theorem conserved_failing {e : BusEvent ι} (distinct : Function.Injective fun i => (envs i).instanceId)
    (apart : i ≠ j) (stepped : FailingBus.step envs bus e = some next) :
    ((taken envs i j bus e).toList ++ inTransit envs i j next.cluster).Sublist
        (inTransit envs i j bus.cluster ++ (given envs i bus e).toList) ∧
      ((taken envs i j bus e).toList ++ inTransit envs i j next.cluster ++ (lost i j bus e).toList).Perm
        (inTransit envs i j bus.cluster ++ (given envs i bus e).toList) := by
  cases e with
  | of e =>
      cases e with
      | forward k =>
          obtain ⟨cluster, forwarded, rfl⟩ := Option.map_eq_some_iff.mp stepped
          obtain ⟨raw, rest, there, queues, inboxes⟩ := outbound_forward forwarded
          have nothing : taken envs i j bus (.of (.forward k)) = none ∧ given envs i bus (.of (.forward k)) = none :=
            ⟨rfl, rfl⟩
          rw [nothing.1, nothing.2, Option.toList_none, List.nil_append, List.append_nil]
          by_cases deaf : bus.ended j = true
          · have inbox : (if bus.ended j then bus.cluster.inbox j else cluster.inbox j) = bus.cluster.inbox j := if_pos deaf
            by_cases own : k = i
            · subst own
              have queue : outbound k { cluster with
                  inbox := fun j => if bus.ended j then bus.cluster.inbox j else cluster.inbox j } = some rest :=
                (queues k).trans (if_pos rfl)
              rw [show lost k j bus (.of (.forward k)) = heading k bus.cluster from if_pos ⟨rfl, deaf⟩]
              exact inTransit_headed there queue inbox
            · have queue : outbound i cluster = outbound i bus.cluster := (queues i).trans (if_neg (Ne.symm own))
              have same : inTransit envs i j { cluster with
                  inbox := fun j => if bus.ended j then bus.cluster.inbox j else cluster.inbox j } =
                    inTransit envs i j bus.cluster := by
                simp only [inTransit, inbox]
                exact congrArg (fun queue => _ ++ (Option.getD queue []).filterMap parsed) queue
              rw [same, show lost i j bus (.of (.forward k)) = none from if_neg fun both => own both.1,
                Option.toList_none, List.append_nil]
              exact ⟨List.Sublist.refl _, List.Perm.refl _⟩
          · have same : inTransit envs i j { cluster with
                inbox := fun j => if bus.ended j then bus.cluster.inbox j else cluster.inbox j } =
                  inTransit envs i j cluster := by
              simp only [inTransit, if_neg deaf]
              rfl
            rw [same, inTransit_forward distinct apart forwarded,
              show lost i j bus (.of (.forward k)) = none from if_neg fun both => deaf both.2, Option.toList_none,
              List.append_nil]
            exact ⟨List.Sublist.refl _, List.Perm.refl _⟩
      | «at» k e | receive k now | write k id evicted =>
          obtain ⟨cluster, moved, rfl⟩ := Option.map_eq_some_iff.mp stepped
          have conserved := conserved_step distinct apart moved
          have kept : ∀ gone : List Frame, gone = [] → ∀ l : List Frame, (l ++ gone).Perm l := by
            rintro _ rfl l
            rw [List.append_nil]
          refine ⟨?_, (kept _ rfl _).trans (List.Perm.of_eq conserved.symm)⟩
          exact conserved ▸ List.Sublist.refl _
  | sendFailed k =>
      obtain ⟨⟨raw, rest, there, queues⟩, inboxes⟩ := outbound_sendFailed stepped
      have nothing : taken envs i j bus (.sendFailed k) = none ∧ given envs i bus (.sendFailed k) = none := ⟨rfl, rfl⟩
      rw [nothing.1, nothing.2, Option.toList_none, List.nil_append, List.append_nil]
      by_cases own : k = i
      · subst own
        rw [show lost k j bus (.sendFailed k) = heading k bus.cluster from if_pos rfl]
        exact inTransit_headed there ((queues k).trans (if_pos rfl)) (congrFun inboxes j)
      · have same : inTransit envs i j next.cluster = inTransit envs i j bus.cluster := by
          simp only [inTransit, inboxes, queues, if_neg (Ne.symm own)]
        rw [same, show lost i j bus (.sendFailed k) = none from if_neg own, Option.toList_none, List.append_nil]
        exact ⟨List.Sublist.refl _, List.Perm.refl _⟩
  | subscriptionEnded k =>
      obtain rfl := Option.some.inj stepped
      simp only [taken, given, lost, Option.toList_none, List.nil_append, List.append_nil]
      exact ⟨List.Sublist.refl _, List.Perm.refl _⟩

end

section Sample
open HistoryOnce ClusterRouting SampleToken Sample

def stocked : FailingBus Bool where
  cluster := twoInstances.setServer false ((twoInstances.server false).setCtx { (twoInstances.instances false).ctx with
    pushFallback := { (twoInstances.instances false).ctx.pushFallback with
      cluster := some [roomParsed.raw, greetingParsed.raw] } })
  ended := fun _ => false

def failing : List (BusEvent Bool) := [.sendFailed false, .of (.forward false), .of (.receive true epoch)]

end Sample

end RealtimePlatform.Proof.ClusterDelivery
