import RealtimePlatform.Backend.Ledger

/-!
# Sessions and the presence table

What presence sees of an instance: its table and log, and for each session whether it is open and as
whom. A departure takes the entry of a session away and announces it on the channels of the entry.
-/

namespace RealtimePlatform.Backend
open Library UseCases Server

/-- What is announced when an entry is removed. -/
def PresenceEntry.departures (event : PresenceEvent) (entry : PresenceEntry) :
    List (ChannelKey × SessionId × PresenceEvent) :=
  entry.channels.map fun channelId =>
    ((ChannelKey.mk entry.tenantId channelId).presenceKey, entry.sessionId, event)

namespace PresenceService

def announce (log : List (ChannelKey × SessionId × PresenceEvent)) (p : PresenceService) :
    PresenceService :=
  { p with published := p.published ++ log }

def depart (event : PresenceEvent) (p : PresenceService) (s : SessionId) : PresenceService :=
  announce ((AList.lookup s p.sessions).toList.flatMap (·.departures event)) (p.remove s)

theorem lookup_remove_ne {p : PresenceService} {s q : SessionId} (apart : q ≠ s) :
    AList.lookup q (p.remove s).sessions = AList.lookup q p.sessions :=
  AList.lookup_erase_ne apart

theorem nodup_expired (now : Clock) (p : PresenceService) : (p.expired now).Nodup := by
  have kept : (p.sessions.entries.filter fun e => isExpired now p.timeout e.2).Sublist
      p.sessions.entries := List.filter_sublist
  exact p.sessions.nodupKeys.sublist kept

theorem foldl_depart (event : PresenceEvent) (p : PresenceService) {order : List SessionId}
    (distinct : order.Nodup) : order.foldl (depart event) p =
      announce ((order.filterMap fun id => AList.lookup id p.sessions).flatMap (·.departures event))
        (order.foldl (fun p id => p.remove id) p) := by
  induction order generalizing p with
  | nil => simp [announce]
  | cons id order ih =>
      obtain ⟨fresh, rest⟩ := List.nodup_cons.mp distinct
      have later : order.filterMap (fun q => AList.lookup q (p.depart event id).sessions) =
          order.filterMap fun q => AList.lookup q p.sessions := by
        apply List.filterMap_congr
        intro q member
        exact lookup_remove_ne (ne_of_mem_of_not_mem member fresh)
      have removed : ∀ (log) (q : PresenceService) (ids : List SessionId),
          ids.foldl (fun p id => p.remove id) (announce log q) =
            announce log (ids.foldl (fun p id => p.remove id) q) := by
        intro log q ids
        induction ids generalizing q with
        | nil => rfl
        | cons i ids ih => exact ih (q.remove i)
      rw [List.foldl_cons, ih _ rest, later, depart, removed, List.foldl_cons]
      cases found : AList.lookup id p.sessions <;>
        simp [announce, found]

end PresenceService

namespace RealtimeContext

theorem presence_departAll (s : SessionId) (event : PresenceEvent) (now : Clock)
    (entry : PresenceEntry) (ctx : RealtimeContext) :
    (departAll s event now entry ctx).presence = ctx.presence.announce (entry.channels.map
      fun channelId => ((ChannelKey.mk entry.tenantId channelId).presenceKey, s, event)) := by
  unfold departAll
  induction entry.channels generalizing ctx with
  | nil => simp [PresenceService.announce]
  | cons channelId rest ih =>
      rw [List.foldl_cons, ih]
      simp [PresenceService.announce, departFrom, publishPresenceEvent]

theorem presence_departEach (event : PresenceEvent) (now : Clock) (entries : List PresenceEntry)
    (ctx : RealtimeContext) :
    (entries.foldl (fun ctx entry => departAll entry.sessionId event now entry ctx) ctx).presence =
      ctx.presence.announce (entries.flatMap (·.departures event)) := by
  induction entries generalizing ctx with
  | nil => simp [PresenceService.announce]
  | cons entry entries ih =>
      rw [List.foldl_cons, ih, presence_departAll]
      simp [PresenceService.announce, PresenceEntry.departures]

theorem presence_sweep {order : List SessionId} (now : Clock) (ctx : RealtimeContext)
    (distinct : order.Nodup) :
    (ctx.sweep order now).presence = order.foldl (PresenceService.depart .timeout) ctx.presence := by
  unfold sweep
  rw [PresenceService.foldl_depart .timeout ctx.presence distinct]
  exact presence_departEach .timeout now _ _

def OwnEntries (p : PresenceService) : Prop :=
  ∀ s entry, AList.lookup s p.sessions = some entry → entry.sessionId = s

theorem presence_handleLeave (ctx : RealtimeContext) (own : OwnEntries ctx.presence) (s : SessionId)
    (now : Clock) : (ctx.handleLeave s now).presence = ctx.presence.depart .leave s := by
  unfold handleLeave PresenceService.depart
  cases found : AList.lookup s ctx.presence.sessions with
  | none =>
      have absent : AList.erase s ctx.presence.sessions = ctx.presence.sessions := by
        apply AList.ext
        exact List.kerase_of_notMem_keys fun member =>
          AList.lookup_eq_none.mp found (AList.mem_keys.mpr member)
      simp [PresenceService.announce, PresenceService.remove, absent]
  | some entry =>
      rw [show (departAll s .leave now entry { ctx with presence := ctx.presence.remove s }).presence = _
        from presence_departAll s .leave now entry _]
      simp [PresenceEntry.departures, own s entry found]

end RealtimeContext

structure User where
  isOpen : Bool
  tenant : Option TenantId
  deriving DecidableEq

namespace Server

def users (server : Server) (s : SessionId) : Option User :=
  (server.connections s).map fun c => ⟨c.isOpen, c.authenticatedTenant⟩

theorem users_setConnection (server : Server) (ctx : RealtimeContext) (s : SessionId)
    (c : Connection) : ((server.setCtx ctx).setConnection s c).users =
      Function.update server.users s (some ⟨c.isOpen, c.authenticatedTenant⟩) := by
  funext q
  simp only [users, connections_setConnection, setCtx_connections, Function.update_apply]
  split <;> rfl

theorem users_setConnection_same {server : Server} {s : SessionId} {c c' : Connection}
    (ctx : RealtimeContext) (there : server.connections s = some c) (isOpen : c'.isOpen = c.isOpen)
    (tenant : c'.authenticatedTenant = c.authenticatedTenant) :
    ((server.setCtx ctx).setConnection s c').users = server.users := by
  rw [users_setConnection, isOpen, tenant]
  apply Function.update_eq_self_iff.mpr
  simp [users, there]

section
variable (env : Env) (server : Server)

def endsLoop : Event → Option SessionId
  | .disconnect s _ => some s
  | .inbound s bytes now =>
    if (handledFrame server s bytes now).any fun frame => Ledger.rejects env server.ctx.auth frame now then some s
    else none
  | _ => none

/-- The session and the tenant of an AUTH that is accepted. -/
def accepts : Event → Option (SessionId × TenantId)
  | .inbound s bytes now => (handledFrame server s bytes now).bind fun frame =>
    (acceptedClaims env frame now server.ctx).map fun _ => (s, frame.tenantId)
  | _ => none

def Departing (e : Event) (s : SessionId) : Prop :=
  server.endsLoop env e = some s ∨ ∃ order now, e = .sweep order now ∧ s ∈ order

/-- An event that makes no session come or go. -/
structure Passive (e : Event) : Prop where
  accepts : accepts env server e = none
  stays : ∀ s, ¬ server.Departing env e s

end

section
variable {env : Env} {server : Server} {s : SessionId} {bytes : List UInt8} {now : Clock}
  {c : Connection} {frame : Frame}

theorem passive_of_none {e : Event} (accepted : accepts env server e = none) (stays : server.endsLoop env e = none)
    (other : ∀ order now, e ≠ .sweep order now) : Passive env server e := by
  refine ⟨accepted, ?_⟩
  rintro s (ends | ⟨order, now, same, _⟩)
  · rw [stays] at ends
    cases ends
  · exact other order now same

theorem passive_unhandled (unhandled : handledFrame server s bytes now = none) :
    Passive env server (.inbound s bytes now) :=
  passive_of_none (by simp [Server.accepts, unhandled]) (by simp [endsLoop, unhandled]) nofun

theorem passive_of_admitted (admitted : Admitted server s bytes now c frame) (opcode : frame.opcode ≠ .auth) :
    Passive env server (.inbound s bytes now) := by
  have handled := handledFrame_of_admitted admitted
  have refused : acceptedClaims env frame now server.ctx = none := if_neg opcode
  refine passive_of_none (by simp [Server.accepts, handled, refused]) ?_ nofun
  simp [endsLoop, handled, Ledger.rejects, opcode]

theorem accepts_of_admitted (admitted : Admitted server s bytes now c frame) {claims : Claims}
    (accepted : acceptedClaims env frame now server.ctx = some claims) :
    accepts env server (.inbound s bytes now) = some (s, frame.tenantId) := by
  simp [accepts, handledFrame_of_admitted admitted, accepted]

theorem accepts_of_endsLoop {e : Event} (ends : server.endsLoop env e = some s) : accepts env server e = none := by
  cases e with
  | inbound q bytes now =>
      simp only [endsLoop, Option.ite_none_right_eq_some] at ends
      cases handled : handledFrame server q bytes now with
      | none => simp [accepts, handled]
      | some frame =>
          rw [handled, Option.any_some, Ledger.rejects, decide_eq_true_eq] at ends
          obtain ⟨⟨opcode, invalid⟩, _⟩ := ends
          have refused : acceptedClaims env frame now server.ctx = none := by
            rw [acceptedClaims, if_pos opcode]
            exact invalid
          simp [accepts, handled, refused]
  | _ => rfl

end

/-- Everything a step can do to presence and to who its sessions are. -/
inductive Attends (env : Env) (server : Server) :
    Event → PresenceService → (SessionId → Option User) → Prop
  | idle {e} : Passive env server e → Attends env server e server.ctx.presence server.users
  | opened {s transport} : server.connections s = none →
      Attends env server (.connect s transport) server.ctx.presence
        (Function.update server.users s (some ⟨true, none⟩))
  | accepted {s bytes now c frame claims} : Admitted server s bytes now c frame →
      acceptedClaims env frame now server.ctx = some claims →
      Attends env server (.inbound s bytes now)
        (server.ctx.presence.register frame.tenantId s claims.sub now)
        (Function.update server.users s (some ⟨true, some frame.tenantId⟩))
  | beat {s bytes now} : Passive env server (.inbound s bytes now) →
      Attends env server (.inbound s bytes now) (server.ctx.presence.heartbeat s now) server.users
  | joined {s bytes now c frame} : Admitted server s bytes now c frame → frame.opcode = .subscribe →
      c.authenticatedTenant = some frame.tenantId → isPattern frame.channelId = false →
      Attends env server (.inbound s bytes now)
        ((server.ctx.presence.trackChannel s frame.channelId).announce
          [((namedKey frame).presenceKey, s, .join)]) server.users
  | left {s bytes now c frame} : Admitted server s bytes now c frame → frame.opcode = .unsub →
      c.authenticatedTenant = some frame.tenantId → isPattern frame.channelId = false →
      Attends env server (.inbound s bytes now)
        ((server.ctx.presence.untrackChannel s frame.channelId).announce
          [((namedKey frame).presenceKey, s, .leave)]) server.users
  | closed {e s c} : server.waiting s = some c → server.endsLoop env e = some s →
      Attends env server e
        (if c.authenticatedTenant.isSome then server.ctx.presence.depart .leave s
          else server.ctx.presence)
        (Function.update server.users s (some ⟨false, c.authenticatedTenant⟩))
  | swept {order now} : order.Nodup →
      Attends env server (.sweep order now)
        (order.foldl (PresenceService.depart .timeout) server.ctx.presence) server.users

theorem presence_leave (ctx : RealtimeContext) (own : RealtimeContext.OwnEntries ctx.presence)
    (s : SessionId) (c : Connection) (now : Clock) :
    (leave s c now ctx).presence =
      if c.authenticatedTenant.isSome then ctx.presence.depart .leave s else ctx.presence := by
  unfold leave
  split
  · exact RealtimeContext.presence_handleLeave { ctx with
      rateLimiter := ctx.rateLimiter.dropSession s
      metrics := ctx.metrics.connectionClosed c.transport } own s now
  · rfl

theorem presence_publishBuilt (tenantId : TenantId) (channelId payload : String) (now : Clock)
    (ctx : RealtimeContext) : (publishBuilt tenantId channelId payload now ctx).presence =
      ctx.presence := by
  unfold publishBuilt
  simp only
  split
  · rfl
  · exact RealtimeContext.presence_publishAndFanout _ _ _ _ _

theorem presence_httpStep (env : Env) (request : HttpRequest) (now : Clock) (ctx : RealtimeContext) :
    (httpStep env request now ctx).presence = ctx.presence := by
  rw [httpStep_eq]
  split
  · split
    · split
      · rfl
      · exact presence_publishBuilt _ _ _ now (chargedTenant request.tenantId now ctx)
    · rfl
  · rfl

section
variable {env : Env} {server : Server} {s : SessionId} {bytes : List UInt8} {now : Clock}
  {c : Connection} {frame : Frame} {command : FrameCommand} {tenant : Option TenantId}
  {ctx : RealtimeContext}

theorem Handles.attends (handles : Handles env server s bytes now c frame command tenant ctx)
    (own : RealtimeContext.OwnEntries server.ctx.presence) :
    Attends env server (.inbound s bytes now)
      (settled s now (returned env server s now c frame tenant) frame command ctx).presence
      (Function.update server.users s (some
        ⟨(react frame command (returned env server s now c frame tenant)).isOpen,
          (react frame command (returned env server s now c frame tenant)).authenticatedTenant⟩)) := by
  obtain ⟨there, isOpen, _⟩ := waiting_eq_some handles.ready
  have same : ∀ p, Attends env server (.inbound s bytes now) p server.users →
      Attends env server (.inbound s bytes now) p
        (Function.update server.users s (some ⟨c.isOpen, c.authenticatedTenant⟩)) := by
    intro p attends
    rwa [Function.update_eq_self_iff.mpr (by simp [users, there])]
  cases handles.dispatched with
  | accepted claims opcode valid =>
      have accepted : acceptedClaims env frame now server.ctx = some claims :=
        acceptedClaims_eq_some.mpr ⟨opcode, valid⟩
      rw [returned_accepted accepted]
      show Attends env server _ _ (Function.update server.users s (some ⟨c.isOpen, some frame.tenantId⟩))
      rw [isOpen]
      exact .accepted handles.toAdmitted accepted
  | rejected err opcode invalid =>
      have refused : acceptedClaims env frame now server.ctx = none := by
        simp only [charged] at invalid
        simp [acceptedClaims, opcode, invalid, Except.toOption]
      rw [returned_refused refused]
      have left := presence_leave { charged s frame now server.ctx with
        metrics := server.ctx.metrics.recordFrame frame.tenantId frame.opcode.label } own s c now
      show Attends env server _ (leave s c now { charged s frame now server.ctx with
        metrics := server.ctx.metrics.recordFrame frame.tenantId frame.opcode.label }).presence
          (Function.update server.users s (some ⟨false, c.authenticatedTenant⟩))
      rw [left]
      refine .closed handles.ready ?_
      have rejects : Ledger.rejects env server.ctx.auth frame now = true := by
        simp only [Ledger.rejects, decide_eq_true_eq]
        exact ⟨opcode, by rw [show server.ctx.auth.validate env.codec now.unixSecs frame.tenantId frame.payload =
          .error err from invalid]; rfl⟩
      simp [endsLoop, handledFrame_of_admitted handles.toAdmitted, rejects]
  | idle opcode =>
      rw [returned_eq opcode]
      exact same _ (.idle (passive_of_admitted handles.toAdmitted opcode))
  | beat opcode =>
      have other : frame.opcode ≠ .auth := by rw [opcode]; decide
      rw [returned_eq other]
      exact same _ (.beat (passive_of_admitted handles.toAdmitted other))
  | published key named owned =>
      rw [returned_eq (opcode_of_publishKey named)]
      have kept := RealtimeContext.presence_publishAndFanout frame.tenantId key frame now
        (charged s frame now server.ctx)
      show Attends env server _ (RealtimeContext.publishAndFanout _ _ _ _ _).presence _
      rw [kept]
      exact same _ (.idle (passive_of_admitted handles.toAdmitted (opcode_of_publishKey named)))
  | replayed frames router opcode owned exact found =>
      have other : frame.opcode ≠ .auth := by rw [opcode]; decide
      rw [returned_eq other]
      exact same _ (.idle (passive_of_admitted handles.toAdmitted other))
  | unsubPattern opcode owned pattern =>
      have other : frame.opcode ≠ .auth := by rw [opcode]; decide
      rw [returned_eq other]
      exact same _ (.idle (passive_of_admitted handles.toAdmitted other))
  | unsubExact opcode owned exact =>
      rw [returned_eq (by rw [opcode]; decide)]
      exact same _ (.left handles.toAdmitted opcode owned exact)
  | pattern opcode owned pattern =>
      have other : frame.opcode ≠ .auth := by rw [opcode]; decide
      rw [returned_eq other]
      exact same _ (.idle (passive_of_admitted handles.toAdmitted other))
  | exact opcode owned exact =>
      rw [returned_eq (by rw [opcode]; decide)]
      exact same _ (.joined handles.toAdmitted opcode owned exact)

end

section
variable {env : Env} {server server' : Server}

theorem attends_idle_of_set {e : Event} {s : SessionId} {c c' : Connection} (ctx : RealtimeContext)
    (passive : Passive env server e) (there : server.connections s = some c) (isOpen : c'.isOpen = c.isOpen)
    (tenant : c'.authenticatedTenant = c.authenticatedTenant)
    (presence : ctx.presence = server.ctx.presence) :
    Attends env server e ((server.setCtx ctx).setConnection s c').ctx.presence
      ((server.setCtx ctx).setConnection s c').users := by
  rw [users_setConnection_same ctx there isOpen tenant, setConnection_ctx, setCtx_ctx, presence]
  exact .idle passive

theorem step_attends {e : Event} (own : RealtimeContext.OwnEntries server.ctx.presence)
    (taken : step env server e = some server') :
    Attends env server e server'.ctx.presence server'.users := by
  cases step_cases taken with
  | connected fresh =>
      rw [users_setConnection]
      exact .opened fresh
  | handled handles =>
      rw [users_setConnection]
      exact handles.attends own
  | unparsed ready parsed => exact .idle (passive_unhandled (handledFrame_unparsed ready parsed))
  | limited ready parsed refused => exact .idle (passive_unhandled (handledFrame_limited ready parsed refused))
  | received there | queued there | replayed there =>
      exact attends_idle_of_set server.ctx (passive_of_none rfl rfl nofun) there rfl rfl rfl
  | wrote ready =>
      exact attends_idle_of_set server.ctx (passive_of_none rfl rfl nofun) (waiting_eq_some ready).1 rfl rfl rfl
  | ended there | orphaned there | dropped there =>
      exact attends_idle_of_set _ (passive_of_none rfl rfl nofun) there rfl rfl rfl
  | closed ready =>
      rw [users_setConnection]
      show Attends env server _ (leave _ _ _ server.ctx).presence _
      rw [presence_leave server.ctx own]
      exact .closed ready rfl
  | swept listed =>
      have distinct := listed.nodup_iff.mpr (PresenceService.nodup_expired _ _)
      show Attends env server _ (server.ctx.sweep _ _).presence _
      rw [RealtimeContext.presence_sweep _ server.ctx distinct]
      exact .swept distinct
  | requested =>
      show Attends env server _ (httpStep env _ _ server.ctx).presence _
      rw [presence_httpStep]
      exact .idle (passive_of_none rfl rfl nofun)
  | administered =>
      rename_i op
      cases op <;> exact .idle (passive_of_none rfl rfl nofun)
  | _ => exact .idle (passive_of_none rfl rfl nofun)

/-- An entry is kept under the session it names, which is open and authenticated as its tenant. -/
def Registered (p : PresenceService) (users : SessionId → Option User) : Prop :=
  ∀ s entry, AList.lookup s p.sessions = some entry →
    entry.sessionId = s ∧ users s = some ⟨true, some entry.tenantId⟩

theorem Registered.own {p : PresenceService} {users : SessionId → Option User}
    (registered : Registered p users) : RealtimeContext.OwnEntries p :=
  fun s entry found => (registered s entry found).1

theorem registered_depart {p : PresenceService} {users : SessionId → Option User}
    (registered : Registered p users) (event : PresenceEvent) (s : SessionId) :
    Registered (p.depart event s) users := by
  intro q entry found
  by_cases same : q = s
  · subst same
    rw [show AList.lookup q (p.depart event q).sessions = none from AList.lookup_erase _ _] at found
    cases found
  · exact registered q entry ((PresenceService.lookup_remove_ne same).symm.trans found)

theorem registered_foldl {p : PresenceService} {users : SessionId → Option User}
    (registered : Registered p users) (event : PresenceEvent) (order : List SessionId) :
    Registered (order.foldl (PresenceService.depart event) p) users := by
  induction order generalizing p with
  | nil => exact registered
  | cons s order ih => exact ih (registered_depart registered event s)

theorem registered_adjust {p p' : PresenceService} {users : SessionId → Option User} {s : SessionId}
    {f : PresenceEntry → PresenceEntry} (registered : Registered p users)
    (sessions : p'.sessions = Table.adjust s f p.sessions)
    (session : ∀ entry, (f entry).sessionId = entry.sessionId)
    (tenant : ∀ entry, (f entry).tenantId = entry.tenantId) : Registered p' users := by
  intro q entry found
  rw [sessions] at found
  by_cases same : q = s
  · subst same
    rw [Table.lookup_adjust] at found
    obtain ⟨older, there, rfl⟩ := Option.map_eq_some_iff.mp found
    rw [session, tenant]
    exact registered q older there
  · rw [Table.lookup_adjust_ne _ _ same] at found
    exact registered q entry found

theorem registered_update {p : PresenceService} {users : SessionId → Option User} {s : SessionId}
    (registered : Registered p users) (absent : AList.lookup s p.sessions = none) (user : Option User) :
    Registered p (Function.update users s user) := by
  intro q entry found
  have apart : q ≠ s := by
    rintro rfl
    rw [absent] at found
    cases found
  rw [Function.update_of_ne apart]
  exact registered q entry found

theorem registered_attends {e : Event} {p : PresenceService} {users : SessionId → Option User}
    (registered : Registered server.ctx.presence server.users)
    (attends : Attends env server e p users) : Registered p users := by
  have unregistered : ∀ s, (∀ tenantId, server.users s ≠ some ⟨true, some tenantId⟩) →
      AList.lookup s server.ctx.presence.sessions = none := by
    intro s stranger
    cases found : AList.lookup s server.ctx.presence.sessions with
    | none => rfl
    | some entry => exact absurd (registered s entry found).2 (stranger entry.tenantId)
  cases attends with
  | idle => exact registered
  | opened fresh =>
      rename_i s transport
      refine registered_update registered (unregistered s fun tenantId there => ?_) _
      simp [users, fresh] at there
  | accepted admitted accepted =>
      rename_i s bytes now c frame claims
      intro q entry found
      by_cases same : q = s
      · subst same
        rw [show AList.lookup q (server.ctx.presence.register frame.tenantId q claims.sub now).sessions =
          some ⟨frame.tenantId, q, claims.sub, [], now.instant, now.system⟩ from AList.lookup_insert _,
          Option.some.injEq] at found
        subst found
        exact ⟨rfl, Function.update_self _ _ _⟩
      · rw [Function.update_of_ne same]
        exact registered q entry ((AList.lookup_insert_ne same).symm.trans found)
  | beat => exact registered_adjust registered rfl (fun _ => rfl) fun _ => rfl
  | joined => exact registered_adjust registered rfl (fun _ => rfl) fun _ => rfl
  | left => exact registered_adjust registered rfl (fun _ => rfl) fun _ => rfl
  | closed ready =>
      rename_i s c _
      split
      · refine registered_update (registered_depart registered .leave s) ?_ _
        exact AList.lookup_erase _ _
      · rename_i stranger
        refine registered_update registered (unregistered s fun tenantId there => stranger ?_) _
        simp only [users, (waiting_eq_some ready).1, Option.map_some, Option.some.injEq,
          User.mk.injEq] at there
        simp [there.2]
  | swept distinct => exact registered_foldl registered .timeout _

def EnrolledAs (p : PresenceService) (s : SessionId) (tenantId : TenantId) : Prop :=
  ∃ entry, AList.lookup s p.sessions = some entry ∧ entry.tenantId = tenantId

def Enrols (env : Env) (tenantId : TenantId) (s : SessionId) (server : Server) (e : Event) : Prop :=
  accepts env server e = some (s, tenantId)

/-- The session ends, is swept, or is authenticated as another tenant. -/
def Withdraws (env : Env) (tenantId : TenantId) (s : SessionId) (server : Server) (e : Event) : Prop :=
  server.Departing env e s ∨ ∃ other, other ≠ tenantId ∧ accepts env server e = some (s, other)

theorem Passive.enrols {e : Event} (passive : Passive env server e) (tenantId : TenantId) (s : SessionId) :
    ¬ Enrols env tenantId s server e := by
  rw [Enrols, passive.accepts]
  exact nofun

theorem Passive.withdraws {e : Event} (passive : Passive env server e) (tenantId : TenantId) (s : SessionId) :
    ¬ Withdraws env tenantId s server e := by
  rintro (departs | ⟨other, _, accepted⟩)
  · exact passive.stays s departs
  · rw [passive.accepts] at accepted
    cases accepted

theorem Passive.enrolled_iff {e : Event} {p : PresenceService} (passive : Passive env server e) {tenantId : TenantId}
    {s : SessionId} (same : EnrolledAs p s tenantId ↔ EnrolledAs server.ctx.presence s tenantId) :
    EnrolledAs p s tenantId ↔ Enrols env tenantId s server e ∨
      EnrolledAs server.ctx.presence s tenantId ∧ ¬ Withdraws env tenantId s server e := by
  rw [same, or_iff_right (passive.enrols tenantId s), and_iff_left (passive.withdraws tenantId s)]

theorem enrolledAs_adjust {p p' : PresenceService} {q : SessionId} {f : PresenceEntry → PresenceEntry}
    (sessions : p'.sessions = Table.adjust q f p.sessions) (kept : ∀ entry, (f entry).tenantId = entry.tenantId)
    (s : SessionId) (tenantId : TenantId) : EnrolledAs p' s tenantId ↔ EnrolledAs p s tenantId := by
  unfold EnrolledAs
  rw [sessions]
  by_cases own : s = q
  · subst own
    rw [Table.lookup_adjust]
    simp [Option.map_eq_some_iff, kept]
  · rw [Table.lookup_adjust_ne _ _ own]

theorem enrolledAs_foldl (event : PresenceEvent) (p : PresenceService) (order : List SessionId) (s : SessionId)
    (tenantId : TenantId) : EnrolledAs (order.foldl (PresenceService.depart event) p) s tenantId ↔
      EnrolledAs p s tenantId ∧ s ∉ order := by
  induction order generalizing p with
  | nil => simp
  | cons q order ih =>
      rw [List.foldl_cons, ih, List.mem_cons, not_or, ← and_assoc]
      refine and_congr_left fun _ => ?_
      unfold EnrolledAs
      by_cases own : s = q
      · subst own
        rw [show AList.lookup s (p.depart event s).sessions = none from AList.lookup_erase _ _]
        simp
      · rw [show AList.lookup s (p.depart event q).sessions = AList.lookup s p.sessions from
          PresenceService.lookup_remove_ne own]
        simp [own]

/-- A session is listed for a tenant from an AUTH that is accepted until it ends, is swept or becomes another's. -/
theorem enrolled_attends {e : Event} {p : PresenceService} {users : SessionId → Option User}
    (registered : Registered server.ctx.presence server.users) (attends : Attends env server e p users)
    (tenantId : TenantId) (s : SessionId) : EnrolledAs p s tenantId ↔ Enrols env tenantId s server e ∨
      EnrolledAs server.ctx.presence s tenantId ∧ ¬ Withdraws env tenantId s server e := by
  cases attends with
  | idle passive => exact passive.enrolled_iff Iff.rfl
  | opened =>
      rename_i q transport _
      have passive : Passive env server (.connect q transport) :=
        passive_of_none rfl rfl fun order now same => by cases same
      exact passive.enrolled_iff Iff.rfl
  | accepted admitted accepted =>
      rename_i q bytes now c frame claims
      have enrolled := accepts_of_admitted admitted accepted
      have stays : ¬ server.Departing env (.inbound q bytes now) s := by
        rintro (ends | ⟨order, now', same, _⟩)
        · rw [accepts_of_endsLoop ends] at enrolled
          cases enrolled
        · cases same
      rw [Enrols, Withdraws, enrolled, or_iff_right stays, Option.some.injEq, Prod.mk.injEq]
      by_cases own : s = q
      · subst own
        have found : AList.lookup s (server.ctx.presence.register frame.tenantId s claims.sub now).sessions =
          some ⟨frame.tenantId, s, claims.sub, [], now.instant, now.system⟩ := AList.lookup_insert _
        simp only [EnrolledAs, found, Option.some.injEq, exists_eq_left', Prod.mk.injEq, true_and]
        constructor
        · exact Or.inl
        · rintro (same | ⟨_, kept⟩)
          · exact same
          · by_contra other
            exact kept ⟨frame.tenantId, other, rfl⟩
      · have kept : AList.lookup s (server.ctx.presence.register frame.tenantId q claims.sub now).sessions =
            AList.lookup s server.ctx.presence.sessions := AList.lookup_insert_ne own
        simp [EnrolledAs, kept, Ne.symm own]
  | beat passive =>
      rename_i q bytes now
      have sessions : (server.ctx.presence.heartbeat q now).sessions = Table.adjust q
        (fun entry => { entry with lastSeen := now.instant }) server.ctx.presence.sessions := rfl
      exact passive.enrolled_iff (enrolledAs_adjust sessions (fun _ => rfl) s tenantId)
  | joined admitted opcode =>
      rename_i q bytes now c frame _ _
      have passive : Passive env server _ := passive_of_admitted admitted (by rw [opcode]; decide)
      have sessions : (server.ctx.presence.trackChannel q frame.channelId).sessions = Table.adjust q
        (fun entry => { entry with channels := entry.channels ++ [frame.channelId] })
          server.ctx.presence.sessions := rfl
      exact passive.enrolled_iff (enrolledAs_adjust sessions (fun _ => rfl) s tenantId)
  | left admitted opcode =>
      rename_i q bytes now c frame _ _
      have passive : Passive env server _ := passive_of_admitted admitted (by rw [opcode]; decide)
      have sessions : (server.ctx.presence.untrackChannel q frame.channelId).sessions = Table.adjust q
        (fun entry => { entry with channels := entry.channels.filter (· != frame.channelId) })
          server.ctx.presence.sessions := rfl
      exact passive.enrolled_iff (enrolledAs_adjust sessions (fun _ => rfl) s tenantId)
  | closed ready ends =>
      rename_i q c
      have unsent : ¬ Enrols env tenantId s server e := by
        rw [Enrols, accepts_of_endsLoop ends]
        exact nofun
      rw [or_iff_right unsent]
      by_cases own : s = q
      · subst own
        refine iff_of_false ?_ fun both => both.2 (Or.inl (Or.inl ends))
        rintro ⟨entry, found, _⟩
        split at found
        · rw [show AList.lookup s (server.ctx.presence.depart .leave s).sessions = none from AList.lookup_erase _ _]
            at found
          cases found
        · rename_i stranger
          have user := (registered s entry found).2
          simp only [users, (waiting_eq_some ready).1, Option.map_some, Option.some.injEq, User.mk.injEq] at user
          rw [user.2] at stranger
          exact stranger rfl
      · have stays : ¬ Withdraws env tenantId s server e := by
          rintro ((again | ⟨order, now, rfl, _⟩) | ⟨other, _, accepted⟩)
          · rw [ends, Option.some.injEq] at again
            exact own again.symm
          · cases ends
          · rw [accepts_of_endsLoop ends] at accepted
            cases accepted
        rw [and_iff_left stays]
        split
        · unfold EnrolledAs
          rw [show AList.lookup s (server.ctx.presence.depart .leave q).sessions =
            AList.lookup s server.ctx.presence.sessions from PresenceService.lookup_remove_ne own]
        · rfl
  | swept distinct =>
      rename_i order now
      have unsent : ¬ Enrols env tenantId s server (.sweep order now) := fun accepted => by cases accepted
      have leaves : Withdraws env tenantId s server (.sweep order now) ↔ s ∈ order := by
        constructor
        · rintro ((ends | ⟨_, _, same, inside⟩) | ⟨other, _, accepted⟩)
          · cases ends
          · cases same
            exact inside
          · cases accepted
        · exact fun inside => Or.inl (Or.inr ⟨order, now, rfl, inside⟩)
      rw [enrolledAs_foldl, or_iff_right unsent, leaves]

theorem enrolled_step {e : Event} (registered : Registered server.ctx.presence server.users)
    (taken : step env server e = some server') (tenantId : TenantId) (s : SessionId) :
    EnrolledAs server'.ctx.presence s tenantId ↔ Enrols env tenantId s server e ∨
      EnrolledAs server.ctx.presence s tenantId ∧ ¬ Withdraws env tenantId s server e :=
  enrolled_attends registered (step_attends registered.own taken) tenantId s

theorem registered_step (server : Server) (e : Event) (server' : Server)
    (registered : Registered server.ctx.presence server.users)
    (taken : step env server e = some server') : Registered server'.ctx.presence server'.users :=
  registered_attends registered (step_attends registered.own taken)

theorem registered_start (config : RateLimitConfig) (timeout : Nat) (hasRedis hasWebPush : Bool) :
    Registered (start config timeout hasRedis hasWebPush).ctx.presence
      (start config timeout hasRedis hasWebPush).users := by
  intro s entry found
  cases found

theorem tenant_of_entry {server : Server} {s : SessionId} {c : Connection} {frame : Frame}
    (registered : Registered server.ctx.presence server.users)
    (ready : server.waiting s = some c) (owned : c.authenticatedTenant = some frame.tenantId)
    {entry : PresenceEntry} (found : AList.lookup s server.ctx.presence.sessions = some entry) :
    entry.tenantId = frame.tenantId := by
  have user := (registered s entry found).2
  simp only [users, (waiting_eq_some ready).1, Option.map_some, Option.some.injEq, User.mk.injEq,
    owned] at user
  exact user.2.symm

end

end Server
end RealtimePlatform.Backend
