import RealtimePlatform.Backend.ChannelKeys
import RealtimePlatform.Backend.Ledger

/-!
# Pruning

Of an entry of the channels map pruning reads whether its history is empty and whether it has receivers
left. The relay tasks of a connection are aborted before its session leaves; by the time `handle_leave`
prunes, some of them may have dropped their receivers and others not.
-/

namespace RealtimePlatform.Backend
open Library UseCases Server

namespace ChannelRouterService
variable {α : Type*} (r : ChannelRouterService α) (key k : ChannelKey)

def hasHistory : Option Bool := (AList.lookup key r.channels).map fun state => !state.history.isEmpty

def deserted : Bool := (AList.lookup key r.channels).all fun state => state.sender.receiverCount == 0

theorem hasHistory_attach (rx : ReceiverId) : (r.attach key rx).hasHistory k =
    if k = key then some ((r.hasHistory k).getD false) else r.hasHistory k := by
  split
  · rename_i here
    subst here
    rw [hasHistory, attach, Table.lookup_upsert, hasHistory]
    cases AList.lookup k r.channels <;> rfl
  · rename_i apart
    rw [hasHistory, attach, Table.lookup_upsert_ne _ _ _ apart, hasHistory]

theorem hasHistory_publish (frame : α) (nowSecs : Nat) : (r.publish key.tenantId key frame nowSecs).2.hasHistory k =
    if k = key then some true else r.hasHistory k := by
  rw [publish, if_neg (not_not.mpr rfl)]
  split
  · rename_i here
    subst here
    rw [hasHistory, Table.lookup_upsert]
    simp [HistoryBuffer.push, HistoryBuffer.isEmpty]
  · rename_i apart
    rw [hasHistory, Table.lookup_upsert_ne _ _ _ apart, hasHistory]

theorem deserted_publish (frame : α) (nowSecs : Nat) :
    (r.publish key.tenantId key frame nowSecs).2.deserted k = r.deserted k := by
  rw [publish, if_neg (not_not.mpr rfl)]
  by_cases here : k = key
  · subst here
    rw [deserted, Table.lookup_upsert, deserted]
    have none : (Bus.new : Bus ReceiverId α).receiverCount = 0 := rfl
    cases AList.lookup k r.channels with
    | none => simp [freshChannel, none]
    | some state => simp
  · rw [deserted, Table.lookup_upsert_ne _ _ _ here, deserted]

theorem hasHistory_pruneEmpty : (r.pruneEmpty key).hasHistory k =
    if k = key ∧ r.deserted k = true then (r.hasHistory k).filter id else r.hasHistory k := by
  rw [hasHistory, pruneEmpty, Table.lookup_retain, hasHistory, deserted]
  cases AList.lookup k r.channels with
  | none => simp
  | some state =>
      by_cases here : k = key
      · cases left : state.sender.receiverCount == 0 <;> cases silent : state.history.isEmpty <;>
          simp [here, left, silent, Option.filter]
      · simp [here, Option.filter]

theorem deserted_pruneEmpty : (r.pruneEmpty key).deserted k = r.deserted k := by
  rw [deserted, pruneEmpty, Table.lookup_retain, deserted]
  cases AList.lookup k r.channels with
  | none => rfl
  | some state =>
      by_cases here : k = key
      · cases left : state.sender.receiverCount == 0 <;> cases silent : state.history.isEmpty <;>
          simp [here, left, silent, Option.filter]
      · simp [here, Option.filter]

theorem deserted_of_sent {rx : ReceiverId} {log : List α} (attached : r.sent (.channel key) rx = some log) :
    r.deserted key = false := by
  obtain ⟨bus, found, heard⟩ := Option.bind_eq_some_iff.mp attached
  obtain ⟨state, there, rfl⟩ := Option.map_eq_some_iff.mp found
  rw [deserted, there, Option.all_some]
  exact beq_false_of_ne (Nat.pos_iff_ne_zero.mp (Bus.receiverCount_pos heard))

theorem hasHistory_detach (source : Source) (rx : ReceiverId) :
    (r.detach source rx).hasHistory k = r.hasHistory k := by
  cases source with
  | wildcard own => rfl
  | channel own =>
      by_cases here : k = own
      · subst here
        rw [detach, hasHistory, Table.lookup_adjust, hasHistory, Option.map_map]
        rfl
      · rw [detach, hasHistory, Table.lookup_adjust_ne _ _ here, hasHistory]

end ChannelRouterService

/-- Each channel has a departure announced and is then pruned. -/
inductive Departed : List ChannelKey → ChannelRouterService Message → ChannelRouterService Message → Prop
  | nil (r) : Departed [] r r
  | cons {r r' key keys} (frame nowSecs) :
      Departed keys ((r.publish key.tenantId key.presenceKey ⟨frame, key.presenceKey⟩ nowSecs).2.pruneEmpty key) r' →
      Departed (key :: keys) r r'

namespace Departed
variable {keys more : List ChannelKey} {r r' r'' : ChannelRouterService Message}

theorem append (first : Departed keys r r') (second : Departed more r' r'') : Departed (keys ++ more) r r'' := by
  induction first with
  | nil => exact second
  | cons frame nowSecs _ ih => exact .cons frame nowSecs (ih second)

theorem hasHistory (departed : Departed keys r r') (k : ChannelKey) : r'.hasHistory k =
    if k ∈ keys.map ChannelKey.presenceKey then some true
    else if k ∈ keys ∧ r.deserted k = true then (r.hasHistory k).filter id else r.hasHistory k := by
  induction departed with
  | nil => simp
  | @cons r r' key keys frame nowSecs _ ih =>
      have own : key.tenantId = key.presenceKey.tenantId := rfl
      rw [ih, ChannelRouterService.deserted_pruneEmpty, ChannelRouterService.hasHistory_pruneEmpty, own,
        ChannelRouterService.deserted_publish, ChannelRouterService.hasHistory_publish]
      by_cases told : k = key.presenceKey
      · have stays : ∀ (p : Prop) [Decidable p], (if p then (some true).filter id else some true) = some true :=
          fun p _ => by split <;> rfl
        rw [if_pos told, stays, stays, ite_self, List.map_cons, if_pos (List.mem_cons.mpr (Or.inl told))]
      · rw [if_neg told, List.map_cons]
        have later : k ∈ key.presenceKey :: keys.map ChannelKey.presenceKey ↔ k ∈ keys.map ChannelKey.presenceKey :=
          List.mem_cons.trans (or_iff_right told)
        rw [if_congr later rfl rfl]
        by_cases here : k = key
        · have once : ∀ x : Option Bool, (x.filter id).filter id = x.filter id := by
            rintro (_ | _ | _) <;> rfl
          subst here
          cases quiet : r.deserted k
          · simp
          · simp only [and_true, if_true, once, ite_self, List.mem_cons, true_or]
        · simp [here]

theorem departAll {entry : PresenceEntry} (s : SessionId) (event : PresenceEvent) (now : Clock)
    (ctx : RealtimeContext) : Departed (entry.channels.map (ChannelKey.mk entry.tenantId)) ctx.channelRouter
      (RealtimeContext.departAll s event now entry ctx).channelRouter := by
  unfold RealtimeContext.departAll
  induction entry.channels generalizing ctx with
  | nil => exact .nil _
  | cons channelId rest ih =>
      exact .cons _ _ (ih (RealtimeContext.departFrom s event entry.tenantId now ctx channelId))

theorem departEach (event : PresenceEvent) (now : Clock) (entries : List PresenceEntry) (ctx : RealtimeContext) :
    Departed (entries.flatMap fun entry => entry.channels.map (ChannelKey.mk entry.tenantId)) ctx.channelRouter
      (entries.foldl (fun ctx entry => RealtimeContext.departAll entry.sessionId event now entry ctx)
        ctx).channelRouter := by
  induction entries generalizing ctx with
  | nil => exact .nil _
  | cons entry entries ih =>
      rw [List.flatMap_cons]
      exact (departAll entry.sessionId event now ctx).append (ih _)

end Departed

/-- An event, with the relay tasks that have dropped their receivers by the time that `handle_leave` runs,
where the event ends the loop of a connection. -/
structure Raced where
  event : Event
  dropped : List Nat

namespace Server
variable (env : Env) (server : Server)

def dropReceiver (s : SessionId) (router : ChannelRouterService Message) (seq : Nat) :
    ChannelRouterService Message :=
  match (server.connections s).bind fun c => AList.lookup seq c.tasks with
  | none => router
  | some task => router.detach task.source ⟨s, seq⟩

def early (r : Raced) : Server :=
  match server.endsLoop env r.event with
  | none => server
  | some s => server.setCtx { server.ctx with
      channelRouter := r.dropped.foldl (server.dropReceiver s) server.ctx.channelRouter }

def raced : Step Server Raced := fun server r => step env (server.early env r) r.event

/-- An event before which no relay task ends early. -/
def plain (e : Event) : Raced := ⟨e, []⟩

theorem raced_plain (e : Event) : raced env server (plain e) = step env server e := by
  unfold raced early
  split <;> rfl

theorem run_plain (es : List Event) : (raced env).run server (es.map plain) = (step env).run server es := by
  induction es generalizing server with
  | nil => rfl
  | cons e es ih =>
      rw [List.map_cons, Step.run, Step.run, raced_plain]
      exact Option.bind_congr fun t _ => ih t

def Leaves (e : Event) (key : ChannelKey) : Prop :=
  ∃ s entry, server.Departing env e s ∧ AList.lookup s server.ctx.presence.sessions = some entry ∧
    entry.tenantId = key.tenantId ∧ key.channelId ∈ entry.channels

def Announced (e : Event) (key : ChannelKey) : Prop := ∃ own, Announces server e own ∧ own.presenceKey = key

def Cleared (r : Raced) (key : ChannelKey) : Prop :=
  server.Leaves env r.event key ∧ (server.early env r).ctx.channelRouter.deserted key = true

end Server

structure Prunes (leaves : ChannelKey → Prop) (r r' : ChannelRouterService Message) : Prop where
  told : ∀ own, leaves own → r'.hasHistory own.presenceKey = some true
  cleared : ∀ key, (∀ own, leaves own → own.presenceKey ≠ key) → leaves key → r.deserted key = true →
    r'.hasHistory key = (r.hasHistory key).filter id
  kept : ∀ key, (∀ own, leaves own → own.presenceKey ≠ key) → ¬ (leaves key ∧ r.deserted key = true) →
    r'.hasHistory key = r.hasHistory key

theorem Departed.prunes {keys : List ChannelKey} {leaves : ChannelKey → Prop} {r r' : ChannelRouterService Message}
    (departed : Departed keys r r') (listed : ∀ key, key ∈ keys ↔ leaves key) : Prunes leaves r r' := by
  have untold : ∀ key, (∀ own, leaves own → own.presenceKey ≠ key) → key ∉ keys.map ChannelKey.presenceKey := by
    intro key apart member
    obtain ⟨own, there, same⟩ := List.mem_map.mp member
    exact apart own ((listed own).mp there) same
  refine ⟨fun own gone => ?_, fun key apart gone left => ?_, fun key apart stays => ?_⟩
  · rw [departed.hasHistory, if_pos (List.mem_map_of_mem ((listed own).mpr gone))]
  · rw [departed.hasHistory, if_neg (untold key apart), if_pos ⟨(listed key).mpr gone, left⟩]
  · rw [departed.hasHistory, if_neg (untold key apart), if_neg fun both => stays ⟨(listed key).mp both.1, both.2⟩]

namespace Server
variable {env : Env} {server server' : Server} {e : Event} {s : SessionId} {now : Clock} {key : ChannelKey}

theorem prunes_leave {users : SessionId → Option User} {c : Connection} {ctx : RealtimeContext}
    (registered : Registered ctx.presence users) (user : users s = some ⟨c.isOpen, c.authenticatedTenant⟩) :
    Prunes (fun key => ∃ entry, AList.lookup s ctx.presence.sessions = some entry ∧
      entry.tenantId = key.tenantId ∧ key.channelId ∈ entry.channels) ctx.channelRouter
      (leave s c now ctx).channelRouter := by
  cases found : AList.lookup s ctx.presence.sessions with
  | none =>
      have same : (leave s c now ctx).channelRouter = ctx.channelRouter := by
        unfold leave
        split
        · simp only [RealtimeContext.handleLeave, found]
        · rfl
      rw [same]
      exact (Departed.nil ctx.channelRouter).prunes fun key => by simp
  | some entry =>
      have signedIn := (registered s entry found).2
      rw [user, Option.some.injEq, User.mk.injEq] at signedIn
      unfold leave
      simp only [signedIn.2, Option.isSome_some, if_true, RealtimeContext.handleLeave, found]
      have departed := @Departed.departAll entry s .leave now { ctx with
        rateLimiter := ctx.rateLimiter.dropSession s
        metrics := ctx.metrics.connectionClosed c.transport
        presence := ctx.presence.remove s }
      refine departed.prunes fun key => ?_
      cases key
      simp only [List.mem_map, ChannelKey.mk.injEq, Option.some.injEq, exists_eq_left']
      constructor
      · rintro ⟨channelId, member, tenant, rfl⟩
        exact ⟨tenant, member⟩
      · rintro ⟨tenant, member⟩
        exact ⟨_, member, tenant, rfl⟩

theorem prunes_sweep (order : List SessionId) (now : Clock) (ctx : RealtimeContext) :
    Prunes (fun key => ∃ s ∈ order, ∃ entry, AList.lookup s ctx.presence.sessions = some entry ∧
      entry.tenantId = key.tenantId ∧ key.channelId ∈ entry.channels) ctx.channelRouter
      (ctx.sweep order now).channelRouter := by
  have departed := Departed.departEach .timeout now (order.filterMap fun id => AList.lookup id ctx.presence.sessions)
    { ctx with
      channelRouter := ctx.channelRouter.pruneDeadWildcards
      presence := order.foldl (fun p id => p.remove id) ctx.presence }
  have pruned : Prunes (fun key => ∃ s ∈ order, ∃ entry, AList.lookup s ctx.presence.sessions = some entry ∧
      entry.tenantId = key.tenantId ∧ key.channelId ∈ entry.channels) ctx.channelRouter.pruneDeadWildcards
      (ctx.sweep order now).channelRouter := departed.prunes fun key => by
    cases key
    simp only [List.mem_flatMap, List.mem_filterMap, List.mem_map, ChannelKey.mk.injEq]
    constructor
    · rintro ⟨entry, ⟨s, member, found⟩, channelId, listed, tenant, rfl⟩
      exact ⟨s, member, entry, found, tenant, listed⟩
    · rintro ⟨s, member, entry, found, tenant, listed⟩
      exact ⟨entry, ⟨s, member, found⟩, _, listed, tenant, rfl⟩
  exact ⟨pruned.told, pruned.cleared, pruned.kept⟩

/-- What a step that publishes and replays nothing makes of a channel. -/
inductive Marked (env : Env) (server : Server) (r : Raced) (key : ChannelKey) : Option Bool → Option Bool → Prop
  | told {x} : server.Announced r.event key ∨ (∃ own, server.Leaves env r.event own ∧ own.presenceKey = key) →
      Marked env server r key x (some true)
  | attached {x} : Attaches env server r.event key → ¬ server.Announced r.event key →
      Marked env server r key x (some (x.getD false))
  | cleared {x} : server.Cleared env r key → ¬ Attaches env server r.event key → ¬ server.Announced r.event key →
      Marked env server r key x (x.filter id)
  | kept {x} : ¬ server.Cleared env r key → ¬ Attaches env server r.event key → ¬ server.Announced r.event key →
      Marked env server r key x x

/-- Nothing is published and no REPLAY is answered from the ring buffer. -/
structure Silent (env : Env) (server : Server) (e : Event) : Prop where
  publishes : ∀ key, ¬ PublishesOn env server e key
  replays : ∀ key, ¬ Replays server e key

theorem hasHistory_early (env : Env) (r : Raced) (key : ChannelKey) :
    (server.early env r).ctx.channelRouter.hasHistory key = server.ctx.channelRouter.hasHistory key := by
  have dropped : ∀ (s : SessionId) (seqs : List Nat) (router : ChannelRouterService Message),
      (seqs.foldl (server.dropReceiver s) router).hasHistory key = router.hasHistory key := by
    intro s seqs router
    induction seqs generalizing router with
    | nil => rfl
    | cons seq seqs ih =>
        rw [List.foldl_cons, ih]
        unfold dropReceiver
        split
        · rfl
        · exact ChannelRouterService.hasHistory_detach _ _ _ _
  unfold early
  split
  · rfl
  · exact dropped _ _ _

theorem registered_router {router : ChannelRouterService Message}
    (registered : Registered server.ctx.presence server.users) :
    Registered (server.setCtx { server.ctx with channelRouter := router }).ctx.presence
      (server.setCtx { server.ctx with channelRouter := router }).users :=
  registered

theorem leaves_router {router : ChannelRouterService Message} :
    (server.setCtx { server.ctx with channelRouter := router }).Leaves env e key ↔ server.Leaves env e key := by
  cases e <;> rfl

theorem prunes_of_endsLoop (registered : Registered server.ctx.presence server.users)
    (ends : server.endsLoop env e = some s) (taken : step env server e = some server') :
    Prunes (server.Leaves env e) server.ctx.channelRouter server'.ctx.channelRouter := by
  have leaves : server.Leaves env e = fun key => ∃ entry, AList.lookup s server.ctx.presence.sessions = some entry ∧
      entry.tenantId = key.tenantId ∧ key.channelId ∈ entry.channels := by
    funext key
    refine propext ⟨?_, fun ⟨entry, found, listed⟩ => ⟨s, entry, Or.inl ends, found, listed⟩⟩
    rintro ⟨q, entry, other | ⟨order, now, rfl, _⟩, found, listed⟩
    · obtain rfl := Option.some.inj (ends.symm.trans other)
      exact ⟨entry, found, listed⟩
    · cases ends
  rw [leaves]
  cases step_cases taken with
  | closed ready =>
      rename_i q now c
      obtain rfl : q = s := Option.some.inj ends
      have user : server.users q = some ⟨c.isOpen, c.authenticatedTenant⟩ := by
        simp [users, (waiting_eq_some ready).1]
      exact prunes_leave registered user
  | handled handles =>
      rename_i q bytes now c frame command tenant ctx
      simp only [endsLoop, handledFrame_of_admitted handles.toAdmitted, Option.any_some, Ledger.rejects,
        decide_eq_true_eq, Option.ite_none_right_eq_some, Option.some.injEq] at ends
      obtain ⟨⟨auth, invalid⟩, rfl⟩ := ends
      have refused : acceptedClaims env frame now server.ctx = none := by
        rw [acceptedClaims, if_pos auth]
        exact invalid
      have user : server.users q = some ⟨c.isOpen, c.authenticatedTenant⟩ := by
        simp [users, (waiting_eq_some handles.ready).1]
      show Prunes _ _ (settled _ _ _ _ _ _).channelRouter
      cases handles.dispatched with
      | rejected err _ _ =>
          rw [returned_refused refused]
          let recorded := { charged q frame now server.ctx with
            metrics := server.ctx.metrics.recordFrame frame.tenantId frame.opcode.label }
          have ended : Prunes _ recorded.channelRouter (leave q c now recorded).channelRouter :=
            prunes_leave registered user
          exact ended
      | idle other => exact absurd auth other
      | accepted claims _ valid =>
          have accepted := acceptedClaims_eq_some.mpr ⟨auth, valid⟩
          rw [show acceptedClaims env frame now (charged q frame now server.ctx) =
            acceptedClaims env frame now server.ctx from rfl, refused] at accepted
          cases accepted
      | beat other => rw [auth] at other; cases other
      | pattern other => rw [auth] at other; cases other
      | exact other => rw [auth] at other; cases other
      | unsubPattern other => rw [auth] at other; cases other
      | unsubExact other => rw [auth] at other; cases other
      | published _ other => exact absurd auth (opcode_of_publishKey other)
      | replayed _ _ other => rw [auth] at other; cases other
  | unparsed ready parsed => simp [endsLoop, handledFrame, ready, parsed, Except.toOption] at ends
  | limited ready parsed refused =>
      simp [endsLoop, handledFrame, ready, parsed, Except.toOption, refused, Option.filter] at ends
  | connected | received | ended | queued | orphaned | replayed | wrote | dropped | swept | requested | administered
    | sent | passed | reinjected | persisted | added => cases ends

section
variable {bytes : List UInt8} {c : Connection} {frame : Frame}

theorem not_leaves_inbound (continues : server.endsLoop env (.inbound s bytes now) = none) :
    ¬ server.Leaves env (.inbound s bytes now) key := by
  rintro ⟨q, entry, ends | ⟨order, now', same, _⟩, _⟩
  · rw [continues] at ends
    cases ends
  · cases same

theorem announced_iff (admitted : Admitted server s bytes now c frame)
    (owned : c.authenticatedTenant = some frame.tenantId) : server.Announced (.inbound s bytes now) key ↔
      (frame.opcode = .subscribe ∨ frame.opcode = .unsub) ∧ isPattern frame.channelId = false ∧
        (namedKey frame).presenceKey = key := by
  constructor
  · rintro ⟨_, ⟨other, acts, opcode, exact, rfl⟩, same⟩
    obtain rfl := frame_of_acts admitted acts
    exact ⟨opcode, exact, same⟩
  · rintro ⟨opcode, exact, same⟩
    exact ⟨_, ⟨frame, ⟨s, bytes, now, c, rfl, admitted, owned⟩, opcode, exact, rfl⟩, same⟩

theorem attaches_iff (admitted : Admitted server s bytes now c frame) (opcode : frame.opcode ≠ .auth)
    (owned : c.authenticatedTenant = some frame.tenantId) : Attaches env server (.inbound s bytes now) key ↔
      frame.opcode = .subscribe ∧ isPattern frame.channelId = false ∧ key = namedKey frame := by
  constructor
  · rintro (⟨other, acts, subscribed⟩ | ⟨q, bytes', now', c', other, claims, same, admitted', accepted, _⟩)
    · obtain rfl := frame_of_acts admitted acts
      exact subscribed
    · cases same
      obtain ⟨rfl, rfl⟩ := admitted.unique admitted'
      exact absurd (acceptedClaims_eq_some.mp accepted).1 opcode
  · rintro ⟨subscribed, exact, same⟩
    exact Or.inl ⟨frame, ⟨s, bytes, now, c, rfl, admitted, owned⟩, subscribed, exact, same⟩

theorem hasHistory_subscribed (admitted : Admitted server s bytes now c frame)
    (owned : c.authenticatedTenant = some frame.tenantId) (opcode : frame.opcode = .subscribe)
    (exact : isPattern frame.channelId = false) (taken : step env server (.inbound s bytes now) = some server') :
    server'.ctx.channelRouter.hasHistory key =
      if key = (namedKey frame).presenceKey then some true
      else if key = namedKey frame then some ((server.ctx.channelRouter.hasHistory key).getD false)
      else server.ctx.channelRouter.hasHistory key := by
  rw [channelRouter_of_executed admitted taken (by rw [opcode]; decide), owned,
    executeInner_exact _ _ _ _ _ _ _ opcode exact]
  exact (ChannelRouterService.hasHistory_publish _ (namedKey frame).presenceKey key _ _).trans
    (if_congr Iff.rfl rfl (ChannelRouterService.hasHistory_attach _ _ _ _))

theorem hasHistory_unsubscribed (admitted : Admitted server s bytes now c frame)
    (owned : c.authenticatedTenant = some frame.tenantId) (opcode : frame.opcode = .unsub)
    (exact : isPattern frame.channelId = false) (taken : step env server (.inbound s bytes now) = some server') :
    server'.ctx.channelRouter.hasHistory key =
      if key = (namedKey frame).presenceKey then some true else server.ctx.channelRouter.hasHistory key := by
  rw [channelRouter_of_executed admitted taken (by rw [opcode]; decide), owned,
    executeInner_unsubExact _ _ _ _ _ _ _ opcode exact]
  exact ChannelRouterService.hasHistory_publish _ (namedKey frame).presenceKey key _ _

theorem marked_of_acts (continues : server.endsLoop env (.inbound s bytes now) = none)
    (admitted : Admitted server s bytes now c frame) (owned : c.authenticatedTenant = some frame.tenantId)
    (opcode : frame.opcode = .subscribe ∨ frame.opcode = .unsub) (exact : isPattern frame.channelId = false)
    (taken : step env server (.inbound s bytes now) = some server') (dropped : List Nat) :
    Marked env server ⟨.inbound s bytes now, dropped⟩ key (server.ctx.channelRouter.hasHistory key)
      (server'.ctx.channelRouter.hasHistory key) := by
  have other : frame.opcode ≠ .auth := by
    rcases opcode with same | same <;> rw [same] <;> decide
  have stays : ¬ server.Cleared env ⟨.inbound s bytes now, dropped⟩ key :=
    fun cleared => not_leaves_inbound continues cleared.1
  by_cases here : key = (namedKey frame).presenceKey
  · have marked : server'.ctx.channelRouter.hasHistory key = some true := by
      rcases opcode with subscribed | left
      · rw [hasHistory_subscribed admitted owned subscribed exact taken, if_pos here]
      · rw [hasHistory_unsubscribed admitted owned left exact taken, if_pos here]
    rw [marked]
    exact .told (Or.inl ((announced_iff admitted owned).mpr ⟨opcode, exact, here.symm⟩))
  · have untold : ¬ server.Announced (.inbound s bytes now) key :=
      fun told => here ((announced_iff admitted owned).mp told).2.2.symm
    rcases opcode with subscribed | left
    · rw [hasHistory_subscribed admitted owned subscribed exact taken, if_neg here]
      by_cases own : key = namedKey frame
      · rw [if_pos own]
        exact .attached ((attaches_iff admitted other owned).mpr ⟨subscribed, exact, own⟩) untold
      · rw [if_neg own]
        exact .kept stays (fun attaches => own ((attaches_iff admitted other owned).mp attaches).2.2) untold
    · rw [hasHistory_unsubscribed admitted owned left exact taken, if_neg here]
      refine .kept stays (fun attaches => ?_) untold
      have subscribed := ((attaches_iff admitted other owned).mp attaches).1
      rw [left] at subscribed
      cases subscribed

theorem marked_of_accepted (continues : server.endsLoop env (.inbound s bytes now) = none)
    (admitted : Admitted server s bytes now c frame) {claims : Claims}
    (accepted : acceptedClaims env frame now server.ctx = some claims)
    (taken : step env server (.inbound s bytes now) = some server') (dropped : List Nat) :
    Marked env server ⟨.inbound s bytes now, dropped⟩ key (server.ctx.channelRouter.hasHistory key)
      (server'.ctx.channelRouter.hasHistory key) := by
  have auth := (acceptedClaims_eq_some.mp accepted).1
  have marked : server'.ctx.channelRouter.hasHistory key =
      if key = inboxKey frame claims.sub then some ((server.ctx.channelRouter.hasHistory key).getD false)
      else server.ctx.channelRouter.hasHistory key := by
    obtain ⟨command, tenant, ctx, handles, rfl⟩ := admitted.handled taken
    obtain ⟨rfl, rfl, rfl⟩ := handles.accepted accepted
    exact ChannelRouterService.hasHistory_attach _ _ _ _
  have untold : ¬ server.Announced (.inbound s bytes now) key := by
    rintro ⟨_, ⟨other, acts, opcode, _⟩, _⟩
    obtain rfl := frame_of_acts admitted acts
    rcases opcode with same | same <;> rw [auth] at same <;> cases same
  rw [marked]
  split
  · rename_i own
    exact .attached (Or.inr ⟨s, bytes, now, c, frame, claims, rfl, admitted, accepted, own⟩) untold
  · rename_i apart
    refine .kept (fun cleared => not_leaves_inbound continues cleared.1) (fun attaches => ?_) untold
    rcases attaches with ⟨other, acts, opcode, _⟩ | ⟨q, bytes', now', c', other, claims', same, admitted', accepted', own⟩
    · obtain rfl := frame_of_acts admitted acts
      rw [auth] at opcode
      cases opcode
    · cases same
      obtain ⟨rfl, rfl⟩ := admitted.unique admitted'
      obtain rfl := Option.some.inj (accepted.symm.trans accepted')
      exact apart own

theorem hasHistory_handled (silent : Silent env server (.inbound s bytes now))
    (continues : server.endsLoop env (.inbound s bytes now) = none) {command : FrameCommand}
    {tenant : Option TenantId} {ctx : RealtimeContext}
    (handles : Handles env server s bytes now c frame command tenant ctx)
    (untold : ∀ key, ¬ Announces server (.inbound s bytes now) key)
    (unattached : acceptedClaims env frame now server.ctx = none) :
    (settled s now (returned env server s now c frame tenant) frame command ctx).channelRouter.hasHistory key =
      server.ctx.channelRouter.hasHistory key := by
  cases handles.dispatched with
  | idle | beat | unsubPattern | pattern => rfl
  | rejected err auth invalid =>
      have rejects : Ledger.rejects env server.ctx.auth frame now = true := by
        simp only [Ledger.rejects, decide_eq_true_eq]
        exact ⟨auth, by rw [show server.ctx.auth.validate env.codec now.unixSecs frame.tenantId frame.payload =
          .error err from invalid]; rfl⟩
      simp [endsLoop, handledFrame_of_admitted handles.toAdmitted, rejects] at continues
  | accepted claims auth valid =>
      have accepted : acceptedClaims env frame now server.ctx = some claims :=
        acceptedClaims_eq_some.mpr ⟨auth, valid⟩
      rw [unattached] at accepted
      cases accepted
  | exact opcode owned exact =>
      exact absurd ⟨frame, handles.acts owned, Or.inl opcode, exact, rfl⟩ (untold (namedKey frame))
  | unsubExact opcode owned exact =>
      exact absurd ⟨frame, handles.acts owned, Or.inr opcode, exact, rfl⟩ (untold (namedKey frame))
  | published key named owned =>
      exact absurd (Or.inl ⟨frame, handles.acts owned, named⟩) (silent.publishes key)
  | replayed frames router opcode owned exact found =>
      have same : router = (server.ctx.channelRouter.replay server.redis frame.tenantId (namedKey frame)
        (sinceSecs frame)).2 := (congrArg Prod.snd found).symm
      show router.hasHistory key = _
      rw [same]
      cases port : server.ctx.channelRouter.historyPort with
      | none => exact absurd ⟨port, frame, handles.acts owned, opcode, exact, rfl⟩ (silent.replays (namedKey frame))
      | some adapter =>
          simp only [ChannelRouterService.replay, port]
          split <;> rfl

end

theorem hasHistory_kept (silent : Silent env server e) (continues : server.endsLoop env e = none)
    (taken : step env server e = some server') (stays : ∀ order now, e ≠ .sweep order now)
    (untold : ∀ key, ¬ Announces server e key) (unattached : ∀ key, ¬ Attaches env server e key) :
    server'.ctx.channelRouter.hasHistory key = server.ctx.channelRouter.hasHistory key := by
  cases step_cases taken with
  | handled handles =>
      rename_i s bytes now c frame command tenant ctx
      refine hasHistory_handled silent continues handles untold ?_
      cases accepted : acceptedClaims env frame now server.ctx with
      | none => rfl
      | some claims =>
          exact absurd (Or.inr ⟨s, bytes, now, c, frame, claims, rfl, handles.toAdmitted, accepted, rfl⟩)
            (unattached (inboxKey frame claims.sub))
  | ended | orphaned | dropped => exact ChannelRouterService.hasHistory_detach _ _ _ _
  | closed => cases continues
  | swept => exact absurd rfl (stays _ _)
  | requested =>
      rename_i request now
      cases text : publishedText env request now server.ctx with
      | none => exact congrArg (ChannelRouterService.hasHistory · key) (channelRouter_httpStep text)
      | some payload =>
          exact absurd (Or.inr (Or.inl ⟨request, now, rfl, by rw [text]; rfl, rfl⟩)) (silent.publishes _)
  | administered =>
      rename_i op
      cases op <;> rfl
  | reinjected found => exact absurd (Or.inr (Or.inr ⟨_, _, _, rfl, found, rfl⟩)) (silent.publishes _)
  | persisted | connected | unparsed | limited | received | queued | replayed | wrote | sent | passed | added => rfl

theorem Prunes.marked {r : Raced} {router : ChannelRouterService Message}
    (prunes : Prunes (server.Leaves env r.event) (server.early env r).ctx.channelRouter router)
    (unattached : ¬ Attaches env server r.event key) (untold : ¬ server.Announced r.event key) :
    Marked env server r key (server.ctx.channelRouter.hasHistory key) (router.hasHistory key) := by
  rw [← hasHistory_early env r key]
  by_cases told : ∃ own, server.Leaves env r.event own ∧ own.presenceKey = key
  · obtain ⟨own, leaves, rfl⟩ := told
    rw [prunes.told own leaves]
    exact .told (Or.inr ⟨own, leaves, rfl⟩)
  · have apart : ∀ own, server.Leaves env r.event own → own.presenceKey ≠ key :=
      fun own leaves same => told ⟨own, leaves, same⟩
    by_cases cleared : server.Cleared env r key
    · rw [prunes.cleared key apart cleared.1 cleared.2]
      exact .cleared cleared unattached untold
    · rw [prunes.kept key apart cleared]
      exact .kept cleared unattached untold

theorem marked_of_sweep {order : List SessionId} (taken : step env server (.sweep order now) = some server')
    (dropped : List Nat) : Marked env server ⟨.sweep order now, dropped⟩ key
      (server.ctx.channelRouter.hasHistory key) (server'.ctx.channelRouter.hasHistory key) := by
  have leaves : server.Leaves env (.sweep order now) = fun key => ∃ s ∈ order, ∃ entry,
      AList.lookup s server.ctx.presence.sessions = some entry ∧ entry.tenantId = key.tenantId ∧
        key.channelId ∈ entry.channels := by
    funext key
    refine propext ⟨?_, fun ⟨s, member, entry, listed⟩ => ⟨s, entry, Or.inr ⟨order, now, rfl, member⟩, listed⟩⟩
    rintro ⟨s, entry, ends | ⟨_, _, same, member⟩, listed⟩
    · cases ends
    · cases same
      exact ⟨s, member, entry, listed⟩
  have prunes : Prunes (server.Leaves env (.sweep order now)) server.ctx.channelRouter
      (server.ctx.sweep order now).channelRouter := by
    rw [leaves]
    exact prunes_sweep order now server.ctx
  cases step_cases taken with
  | swept =>
      refine Prunes.marked (r := ⟨.sweep order now, dropped⟩) prunes ?_ ?_
      · rintro (⟨_, ⟨_, _, _, _, same, _⟩, _⟩ | ⟨_, _, _, _, _, _, same, _⟩) <;> cases same
      · rintro ⟨_, ⟨_, ⟨_, _, _, _, same, _⟩, _⟩, _⟩
        cases same

theorem marked_of_step (silent : Silent env server e) (continues : server.endsLoop env e = none)
    (taken : step env server e = some server') (dropped : List Nat) :
    Marked env server ⟨e, dropped⟩ key (server.ctx.channelRouter.hasHistory key)
      (server'.ctx.channelRouter.hasHistory key) := by
  by_cases swept : ∃ order now, e = .sweep order now
  · obtain ⟨order, now, rfl⟩ := swept
    exact marked_of_sweep taken dropped
  have stays : ∀ order now, e ≠ .sweep order now := fun order now same => swept ⟨order, now, same⟩
  by_cases told : ∃ own, Announces server e own
  · obtain ⟨_, frame, ⟨s, bytes, now, c, rfl, admitted, owned⟩, opcode, exact, rfl⟩ := told
    exact marked_of_acts continues admitted owned opcode exact taken dropped
  by_cases attached : ∃ own, Attaches env server e own
  · obtain ⟨own, ⟨frame, acts, opcode, exact, _⟩ | ⟨s, bytes, now, c, frame, claims, rfl, admitted, accepted, _⟩⟩ :=
      attached
    · exact absurd ⟨_, frame, acts, Or.inl opcode, exact, rfl⟩ told
    · exact marked_of_accepted continues admitted accepted taken dropped
  rw [hasHistory_kept silent continues taken stays (fun own other => told ⟨own, other⟩)
    fun own other => attached ⟨own, other⟩]
  refine .kept ?_ (fun other => attached ⟨key, other⟩) (fun ⟨own, other, _⟩ => told ⟨own, other⟩)
  rintro ⟨⟨q, entry, ends | ⟨order, now, same, _⟩, _⟩, _⟩
  · rw [continues] at ends
    cases ends
  · exact stays order now same

theorem early_of_continues (r : Raced) (continues : server.endsLoop env r.event = none) :
    server.early env r = server := by
  rw [early, continues]

theorem quiet_of_endsLoop (ends : server.endsLoop env e = some s) :
    (∀ key, ¬ Attaches env server e key) ∧ ∀ frame, Acts server e frame → frame.opcode = .auth := by
  cases e with
  | disconnect q now =>
      refine ⟨?_, ?_⟩
      · rintro key (⟨_, ⟨_, _, _, _, same, _⟩, _⟩ | ⟨_, _, _, _, _, _, same, _⟩) <;> cases same
      · rintro frame ⟨_, _, _, _, same, _⟩
        cases same
  | inbound q bytes now =>
      have rejects : ∀ {c frame}, Admitted server q bytes now c frame → frame.opcode = .auth ∧
          acceptedClaims env frame now server.ctx = none := by
        intro c frame admitted
        simp only [endsLoop, handledFrame_of_admitted admitted, Option.any_some, Ledger.rejects, decide_eq_true_eq,
          Option.ite_none_right_eq_some, Option.some.injEq] at ends
        refine ⟨ends.1.1, ?_⟩
        rw [acceptedClaims, if_pos ends.1.1]
        exact ends.1.2
      refine ⟨?_, ?_⟩
      · rintro key (⟨frame, ⟨_, _, _, _, same, admitted, _⟩, opcode, _⟩ |
          ⟨_, _, _, _, _, _, same, admitted, accepted, _⟩)
        · cases same
          rw [(rejects admitted).1] at opcode
          cases opcode
        · cases same
          rw [(rejects admitted).2] at accepted
          cases accepted
      · rintro frame ⟨_, _, _, _, same, admitted, _⟩
        cases same
        exact (rejects admitted).1
  | _ => cases ends

theorem untold_of_endsLoop (ends : server.endsLoop env e = some s) : ¬ server.Announced e key := by
  rintro ⟨_, ⟨frame, acts, opcode, _⟩, _⟩
  have auth := (quiet_of_endsLoop ends).2 frame acts
  rcases opcode with same | same <;> rw [auth] at same <;> cases same

theorem marked_of_raced {r : Raced} (registered : Registered server.ctx.presence server.users)
    (silent : Silent env server r.event) (taken : raced env server r = some server') :
    Marked env server r key (server.ctx.channelRouter.hasHistory key)
      (server'.ctx.channelRouter.hasHistory key) := by
  cases ends : server.endsLoop env r.event with
  | none =>
      rw [raced, early_of_continues r ends] at taken
      exact marked_of_step silent ends taken r.dropped
  | some s =>
      refine Prunes.marked ?_ ((quiet_of_endsLoop ends).1 key) (untold_of_endsLoop ends)
      have same : server.early env r = server.setCtx { server.ctx with
          channelRouter := r.dropped.foldl (server.dropReceiver s) server.ctx.channelRouter } := by
        rw [early, ends]
      rw [raced, same] at taken
      rw [same]
      generalize r.dropped.foldl (server.dropReceiver s) server.ctx.channelRouter = router at taken
      have later : (server.setCtx { server.ctx with channelRouter := router }).endsLoop env r.event = some s := by
        rw [← ends]
        cases r.event <;> rfl
      have prunes := prunes_of_endsLoop (registered_router registered) later taken
      have leaves : (server.setCtx { server.ctx with channelRouter := router }).Leaves env r.event =
          server.Leaves env r.event := by
        funext key
        exact propext leaves_router
      rwa [leaves] at prunes

theorem exists_early (env : Env) (server : Server) (r : Raced) : ∃ router,
    server.early env r = server.setCtx { server.ctx with channelRouter := router } := by
  unfold early
  split
  · exact ⟨server.ctx.channelRouter, rfl⟩
  · exact ⟨_, rfl⟩

theorem acts_of_router {router : ChannelRouterService Message} {frame : Frame}
    (acts : Acts (server.setCtx { server.ctx with channelRouter := router }) e frame) : Acts server e frame := by
  obtain ⟨s, bytes, now, c, rfl, admitted, owned⟩ := acts
  exact ⟨s, bytes, now, c, rfl, ⟨admitted.ready, admitted.parsed, admitted.allowed⟩, owned⟩

theorem registered_raced {r : Raced} (registered : Registered server.ctx.presence server.users)
    (taken : raced env server r = some server') : Registered server'.ctx.presence server'.users := by
  obtain ⟨router, same⟩ := exists_early env server r
  rw [raced, same] at taken
  exact registered_step _ r.event server' (registered_router registered) taken

theorem listed_raced {r : Raced} (registered : Registered server.ctx.presence server.users)
    (taken : raced env server r = some server') (listed : Listed server'.ctx.presence key) :
    Listed server.ctx.presence key ∨ server.Announced r.event key.presenceKey := by
  obtain ⟨router, same⟩ := exists_early env server r
  rw [raced, same] at taken
  rcases listed_step (registered_router registered) taken listed with before | ⟨frame, acts, opcode, exact, rfl⟩
  · exact Or.inl before
  · exact Or.inr ⟨_, ⟨frame, acts_of_router acts, Or.inl opcode, exact, rfl⟩, rfl⟩

theorem listed_of_leaves (leaves : server.Leaves env e key) : Listed server.ctx.presence key := by
  obtain ⟨s, entry, _, found, listed⟩ := leaves
  exact ⟨s, entry, found, listed⟩

end Server
end RealtimePlatform.Backend
