import RealtimePlatform.Backend.Attendance
import RealtimePlatform.Backend.Publications
import RealtimePlatform.Library.Alternation
import RealtimePlatform.Proof.Handling

namespace RealtimePlatform.Proof.PresenceBalance
open Library Backend Backend.Server Backend.UseCases

def isJoin (event : PresenceEvent) : Bool := event = .join

def eventsOf (log : List (ChannelKey × SessionId × PresenceEvent)) (s : SessionId)
    (channel : ChannelKey) : List PresenceEvent :=
  (log.filter fun entry => entry.1 = channel.presenceKey ∧ entry.2.1 = s).map (·.2.2)

def Gone (server : Server) (s : SessionId) : Prop :=
  ∀ c, server.connections s = some c → c.isOpen = false

def Balanced (server : Server) : Prop :=
  ∀ s channel, Alternates isJoin (eventsOf server.ctx.presence.published s channel) ∧
    (Gone server s → (eventsOf server.ctx.presence.published s channel).countP isJoin =
      (eventsOf server.ctx.presence.published s channel).countP fun event => !isJoin event)

/-- Balanced in every state of a run, and should any session disconnect there. -/
def StaysBalanced (env : Env) (server : Server) (es : List Event) : Prop :=
  ∀ ds t, ds <+: es → (step env).run server ds = some t → Balanced t ∧
    ∀ s now t', step env t (.disconnect s now) = some t' → Balanced t'

/-- A channel is subscribed only when the entry of the session does not list it and unsubscribed only
when it does, and an AUTH is accepted only when nothing is listed. -/
def KeepsTrack (env : Env) (server : Server) : Event → Prop
  | .inbound s bytes now => ∀ c frame, Admitted server s bytes now c frame →
      (frame.opcode = .subscribe → c.authenticatedTenant = some frame.tenantId →
        isPattern frame.channelId = false →
        ∃ entry, AList.lookup s server.ctx.presence.sessions = some entry ∧
          frame.channelId ∉ entry.channels) ∧
      (frame.opcode = .unsub → c.authenticatedTenant = some frame.tenantId →
        isPattern frame.channelId = false →
        ∃ entry, AList.lookup s server.ctx.presence.sessions = some entry ∧
          frame.channelId ∈ entry.channels) ∧
      (∀ claims, acceptedClaims env frame now server.ctx = some claims →
        ∀ entry, AList.lookup s server.ctx.presence.sessions = some entry → entry.channels = [])
  | _ => True

theorem eventsOf_append (log more : List (ChannelKey × SessionId × PresenceEvent)) (s : SessionId)
    (channel : ChannelKey) :
    eventsOf (log ++ more) s channel = eventsOf log s channel ++ eventsOf more s channel := by
  simp [eventsOf]

theorem presenceKey_injective : Function.Injective ChannelKey.presenceKey := by
  intro key key' same
  cases key
  cases key'
  simp only [ChannelKey.presenceKey, ChannelKey.mk.injEq] at same ⊢
  refine ⟨same.1, ?_⟩
  have texts := congrArg String.toList same.2
  rw [String.toList_append, String.toList_append] at texts
  exact String.toList_inj.mp (List.append_cancel_right texts)

theorem eventsOf_singleton (named : ChannelKey) (q : SessionId) (event : PresenceEvent)
    (s : SessionId) (channel : ChannelKey) :
    eventsOf [(named.presenceKey, q, event)] s channel =
      if channel = named ∧ s = q then [event] else [] := by
  have same : named.presenceKey = channel.presenceKey ∧ q = s ↔ channel = named ∧ s = q := by
    rw [presenceKey_injective.eq_iff, eq_comm, @eq_comm _ q]
  simp only [eventsOf, List.filter_cons, List.filter_nil, decide_eq_true_eq, same]
  split <;> rfl

def Tracks (p : PresenceService) (s : SessionId) (channel : ChannelKey) : Prop :=
  ∃ entry, AList.lookup s p.sessions = some entry ∧ entry.tenantId = channel.tenantId ∧
    channel.channelId ∈ entry.channels

theorem eventsOf_departures {entry : PresenceEntry} (event : PresenceEvent) (s : SessionId)
    (channel : ChannelKey) (distinct : entry.channels.Nodup) :
    eventsOf (entry.departures event) s channel =
      if s = entry.sessionId ∧ entry.tenantId = channel.tenantId ∧ channel.channelId ∈ entry.channels
      then [event] else [] := by
  unfold PresenceEntry.departures
  revert distinct
  induction entry.channels with
  | nil => simp [eventsOf]
  | cons channelId rest ih =>
      intro distinct
      obtain ⟨fresh, others⟩ := List.nodup_cons.mp distinct
      have split : eventsOf ((channelId :: rest).map fun channelId =>
            ((ChannelKey.mk entry.tenantId channelId).presenceKey, entry.sessionId, event)) s channel =
          eventsOf [((ChannelKey.mk entry.tenantId channelId).presenceKey, entry.sessionId, event)] s
            channel ++ eventsOf (rest.map fun channelId =>
              ((ChannelKey.mk entry.tenantId channelId).presenceKey, entry.sessionId, event)) s channel :=
        eventsOf_append [_] _ s channel
      rw [split, ih others, eventsOf_singleton]
      obtain ⟨tenantId, name⟩ := channel
      by_cases own : s = entry.sessionId
      · by_cases tenant : entry.tenantId = tenantId
        · subst tenant
          by_cases first : name = channelId
          · subst first
            simp [own, fresh]
          · simp [own, first]
        · have apart : ¬ tenantId = entry.tenantId := fun same => tenant same.symm
          simp [tenant, apart]
      · simp [own]

/-- What the entries list is what the log has announced and not withdrawn. -/
structure Kept (p : PresenceService) : Prop where
  distinct : ∀ s entry, AList.lookup s p.sessions = some entry → entry.channels.Nodup
  alternates : ∀ s channel, Alternates isJoin (eventsOf p.published s channel)
  tracked : ∀ s channel, (eventsOf p.published s channel).length % 2 = 1 ↔ Tracks p s channel

theorem Kept.extend {p p' : PresenceService} (kept : Kept p)
    (more : List (ChannelKey × SessionId × PresenceEvent))
    (distinct : ∀ s entry, AList.lookup s p'.sessions = some entry → entry.channels.Nodup)
    (published : p'.published = p.published ++ more)
    (each : ∀ s channel,
      (eventsOf more s channel = [] ∧ (Tracks p' s channel ↔ Tracks p s channel)) ∨
      ∃ event, eventsOf more s channel = [event] ∧ (isJoin event = true ↔ ¬ Tracks p s channel) ∧
        (Tracks p' s channel ↔ ¬ Tracks p s channel)) : Kept p' where
  distinct := distinct
  alternates s channel := by
    rw [published, eventsOf_append]
    rcases each s channel with ⟨silent, _⟩ | ⟨event, announced, turn, _⟩
    · rw [silent, List.append_nil]
      exact kept.alternates s channel
    · rw [announced]
      refine alternates_concat.mpr ⟨kept.alternates s channel, turn.trans ?_⟩
      rw [← kept.tracked s channel]
      omega
  tracked s channel := by
    rw [published, eventsOf_append]
    rcases each s channel with ⟨silent, same⟩ | ⟨event, announced, _, turned⟩
    · rw [silent, List.append_nil, same]
      exact kept.tracked s channel
    · rw [announced, turned, ← kept.tracked s channel, List.length_append, List.length_singleton]
      omega

theorem kept_same {p p' : PresenceService} (kept : Kept p) (published : p'.published = p.published)
    (listed : ∀ s, (AList.lookup s p'.sessions).map (fun entry => (entry.tenantId, entry.channels)) =
      (AList.lookup s p.sessions).map fun entry => (entry.tenantId, entry.channels)) : Kept p' := by
  have older : ∀ s entry, AList.lookup s p'.sessions = some entry →
      ∃ entry', AList.lookup s p.sessions = some entry' ∧ entry'.tenantId = entry.tenantId ∧
        entry'.channels = entry.channels := by
    intro s entry found
    have same := listed s
    rw [found, Option.map_some] at same
    obtain ⟨entry', there, equal⟩ := Option.map_eq_some_iff.mp same.symm
    exact ⟨entry', there, (Prod.mk.inj equal).1, (Prod.mk.inj equal).2⟩
  refine kept.extend [] (fun s entry found => ?_) (by simp [published]) fun s channel =>
    Or.inl ⟨rfl, ?_⟩
  · obtain ⟨entry', there, _, channels⟩ := older s entry found
    exact channels ▸ kept.distinct s entry' there
  · have tracks : ∀ q : PresenceService, Tracks q s channel ↔ ∃ pair,
        (AList.lookup s q.sessions).map (fun entry => (entry.tenantId, entry.channels)) = some pair ∧
          pair.1 = channel.tenantId ∧ channel.channelId ∈ pair.2 := by
      intro q
      constructor
      · rintro ⟨entry, found, there⟩
        exact ⟨_, by rw [found, Option.map_some], there⟩
      · rintro ⟨pair, found, there⟩
        obtain ⟨entry, held, rfl⟩ := Option.map_eq_some_iff.mp found
        exact ⟨entry, held, there⟩
    rw [tracks, tracks, listed s]

theorem kept_register {p : PresenceService} (kept : Kept p) {s : SessionId}
    (empty : ∀ entry, AList.lookup s p.sessions = some entry → entry.channels = [])
    (tenantId : TenantId) (sub : String) (now : Clock) : Kept (p.register tenantId s sub now) := by
  have own : AList.lookup s (p.register tenantId s sub now).sessions =
      some ⟨tenantId, s, sub, [], now.instant, now.system⟩ := AList.lookup_insert _
  have other : ∀ q, q ≠ s → AList.lookup q (p.register tenantId s sub now).sessions =
      AList.lookup q p.sessions := fun q apart => AList.lookup_insert_ne apart
  refine kept.extend [] (fun q entry found => ?_) (List.append_nil _).symm fun q channel =>
    Or.inl ⟨rfl, ?_⟩
  · by_cases same : q = s
    · rw [same, own, Option.some.injEq] at found
      subst found
      exact List.nodup_nil
    · rw [other q same] at found
      exact kept.distinct q entry found
  · by_cases same : q = s
    · subst same
      constructor
      · rintro ⟨entry, found, _, listed⟩
        rw [own, Option.some.injEq] at found
        subst found
        cases listed
      · rintro ⟨entry, found, _, listed⟩
        rw [empty entry found] at listed
        cases listed
    · simp only [Tracks, other q same]

theorem kept_heartbeat {p : PresenceService} (kept : Kept p) (s : SessionId) (now : Clock) :
    Kept (p.heartbeat s now) := by
  refine kept_same kept rfl fun q => ?_
  show (AList.lookup q (Table.adjust s _ p.sessions)).map _ = _
  by_cases same : q = s
  · subst same
    rw [Table.lookup_adjust, Option.map_map]
    rfl
  · rw [Table.lookup_adjust_ne _ _ same]

theorem kept_adjust {p : PresenceService} (kept : Kept p) {s : SessionId} (named : ChannelKey)
    {entry : PresenceEntry} (found : AList.lookup s p.sessions = some entry)
    (tenant : entry.tenantId = named.tenantId) (f : PresenceEntry → PresenceEntry)
    (event : PresenceEvent) (sameTenant : (f entry).tenantId = entry.tenantId)
    (distinct : (f entry).channels.Nodup)
    (turn : isJoin event = true ↔ named.channelId ∉ entry.channels)
    (turned : named.channelId ∈ (f entry).channels ↔ named.channelId ∉ entry.channels)
    (others : ∀ channelId, channelId ≠ named.channelId →
      (channelId ∈ (f entry).channels ↔ channelId ∈ entry.channels)) :
    Kept (PresenceService.announce [(named.presenceKey, s, event)]
      { p with sessions := Table.adjust s f p.sessions }) := by
  have own : AList.lookup s (Table.adjust s f p.sessions) = some (f entry) := by
    rw [Table.lookup_adjust, found, Option.map_some]
  have tracksOwn : ∀ channel : ChannelKey, Tracks p s channel ↔
      entry.tenantId = channel.tenantId ∧ channel.channelId ∈ entry.channels := by
    intro channel
    simp [Tracks, found]
  have tracksNew : ∀ channel : ChannelKey, Tracks (PresenceService.announce
      [(named.presenceKey, s, event)] { p with sessions := Table.adjust s f p.sessions }) s channel ↔
      entry.tenantId = channel.tenantId ∧ channel.channelId ∈ (f entry).channels := by
    intro channel
    simp [Tracks, PresenceService.announce, own, sameTenant]
  refine kept.extend _ (fun q older there => ?_) rfl fun q channel => ?_
  · by_cases same : q = s
    · subst same
      obtain rfl := Option.some.inj (own.symm.trans there)
      exact distinct
    · exact kept.distinct q older ((Table.lookup_adjust_ne f p.sessions same).symm.trans there)
  · rw [eventsOf_singleton]
    by_cases same : q = s
    · subst same
      rw [tracksOwn, tracksNew]
      by_cases hit : channel = named
      · subst hit
        right
        refine ⟨event, if_pos ⟨rfl, rfl⟩, ?_, ?_⟩
        · simpa [tenant] using turn
        · simpa [tenant] using turned
      · left
        refine ⟨if_neg fun both => hit both.1, and_congr_right fun sameTenant => others _ fun name => ?_⟩
        apply hit
        cases channel
        cases named
        exact congrArg₂ ChannelKey.mk (sameTenant.symm.trans tenant) name
    · left
      refine ⟨if_neg fun both => same both.2, ?_⟩
      show Tracks { p with sessions := Table.adjust s f p.sessions } q channel ↔ _
      simp only [Tracks, Table.lookup_adjust_ne f p.sessions same]

theorem kept_depart {p : PresenceService} (kept : Kept p) (own : RealtimeContext.OwnEntries p)
    {event : PresenceEvent} (departure : isJoin event = false) (s : SessionId) :
    Kept (p.depart event s) := by
  have gone : AList.lookup s (p.depart event s).sessions = none := AList.lookup_erase _ _
  have other : ∀ q, q ≠ s → AList.lookup q (p.depart event s).sessions = AList.lookup q p.sessions :=
    fun q apart => PresenceService.lookup_remove_ne apart
  refine kept.extend _ (fun q entry found => ?_) rfl fun q channel => ?_
  · by_cases same : q = s
    · rw [same, gone] at found
      cases found
    · rw [other q same] at found
      exact kept.distinct q entry found
  · have after : ¬ Tracks (p.depart event s) s channel := by
      rintro ⟨entry, found, _⟩
      rw [gone] at found
      cases found
    cases there : AList.lookup s p.sessions with
    | none =>
        left
        refine ⟨rfl, ?_⟩
        by_cases same : q = s
        · subst same
          refine iff_of_false after ?_
          rintro ⟨entry, found, _⟩
          rw [there] at found
          cases found
        · simp only [Tracks, other q same]
    | some entry =>
        have session := own s entry there
        have tracks : Tracks p s channel ↔
            entry.tenantId = channel.tenantId ∧ channel.channelId ∈ entry.channels := by
          simp [Tracks, there]
        simp only [Option.toList_some, List.flatMap_singleton]
        rw [eventsOf_departures event q channel (kept.distinct s entry there), session]
        by_cases same : q = s
        · subst same
          by_cases listed : entry.tenantId = channel.tenantId ∧ channel.channelId ∈ entry.channels
          · right
            have before : Tracks p q channel := tracks.mpr listed
            refine ⟨event, if_pos ⟨rfl, listed⟩, ?_, ?_⟩
            · simp [departure, before]
            · exact iff_of_false after fun not => not before
          · left
            exact ⟨if_neg fun both => listed both.2,
              iff_of_false after fun before => listed (tracks.mp before)⟩
        · left
          exact ⟨if_neg fun both => same both.1, by simp only [Tracks, other q same]⟩

theorem kept_foldl_depart {p : PresenceService} {users : SessionId → Option User} (kept : Kept p)
    (registered : Registered p users) {event : PresenceEvent} (departure : isJoin event = false)
    (order : List SessionId) : Kept (order.foldl (PresenceService.depart event) p) := by
  induction order generalizing p with
  | nil => exact kept
  | cons s order ih =>
      exact ih (kept_depart kept registered.own departure s) (registered_depart registered event s)

section
variable {env : Env} {server server' : Server} {s : SessionId} {bytes : List UInt8} {now : Clock}
  {c : Connection} {frame : Frame}

theorem kept_joined (kept : Kept server.ctx.presence)
    (registered : Registered server.ctx.presence server.users)
    (ready : server.waiting s = some c) (owned : c.authenticatedTenant = some frame.tenantId)
    {entry : PresenceEntry} (found : AList.lookup s server.ctx.presence.sessions = some entry)
    (fresh : frame.channelId ∉ entry.channels) :
    Kept ((server.ctx.presence.trackChannel s frame.channelId).announce
      [((namedKey frame).presenceKey, s, .join)]) := by
  refine kept_adjust kept (namedKey frame) found (tenant_of_entry registered ready owned found)
    (fun entry => { entry with channels := entry.channels ++ [frame.channelId] }) .join rfl ?_ ?_ ?_ ?_
  · exact List.nodup_append_comm.mp (List.nodup_cons.mpr ⟨fresh, kept.distinct s entry found⟩)
  · exact iff_of_true rfl fresh
  · exact iff_of_true (by simp [namedKey]) fresh
  · intro channelId other
    simp only [namedKey] at other
    simp [other]

theorem kept_left (kept : Kept server.ctx.presence)
    (registered : Registered server.ctx.presence server.users)
    (ready : server.waiting s = some c) (owned : c.authenticatedTenant = some frame.tenantId)
    {entry : PresenceEntry} (found : AList.lookup s server.ctx.presence.sessions = some entry)
    (listed : frame.channelId ∈ entry.channels) :
    Kept ((server.ctx.presence.untrackChannel s frame.channelId).announce
      [((namedKey frame).presenceKey, s, .leave)]) := by
  refine kept_adjust kept (namedKey frame) found (tenant_of_entry registered ready owned found)
    (fun entry => { entry with channels := entry.channels.filter (· != frame.channelId) }) .leave rfl
    ?_ ?_ ?_ ?_
  · exact (kept.distinct s entry found).filter _
  · exact iff_of_false (by decide) (not_not.mpr listed)
  · exact iff_of_false (by simp [namedKey]) (not_not.mpr listed)
  · intro channelId other
    simp only [namedKey] at other
    simp [other]

theorem kept_step {e : Event} (kept : Kept server.ctx.presence)
    (registered : Registered server.ctx.presence server.users) (tracks : KeepsTrack env server e)
    (taken : step env server e = some server') : Kept server'.ctx.presence := by
  have attends := step_attends registered.own taken
  generalize server'.ctx.presence = p, server'.users = users' at attends ⊢
  cases attends with
  | idle => exact kept
  | opened => exact kept
  | accepted admitted accepted =>
      rename_i frame claims
      exact kept_register kept ((tracks _ frame admitted).2.2 claims accepted) _ _ _
  | beat => exact kept_heartbeat kept _ _
  | joined admitted opcode owned exact =>
      obtain ⟨entry, found, fresh⟩ := (tracks _ _ admitted).1 opcode owned exact
      exact kept_joined kept registered admitted.ready owned found fresh
  | left admitted opcode owned exact =>
      obtain ⟨entry, found, listed⟩ := (tracks _ _ admitted).2.1 opcode owned exact
      exact kept_left kept registered admitted.ready owned found listed
  | closed =>
      split
      · exact kept_depart kept registered.own (by decide) _
      · exact kept
  | swept distinct => exact kept_foldl_depart kept registered (by decide) _

theorem balanced_of_kept (kept : Kept server.ctx.presence)
    (registered : Registered server.ctx.presence server.users) : Balanced server := by
  intro s channel
  refine ⟨kept.alternates s channel, fun gone => ?_⟩
  have even : ¬ (eventsOf server.ctx.presence.published s channel).length % 2 = 1 := by
    rw [kept.tracked s channel]
    rintro ⟨entry, found, _⟩
    obtain ⟨c, there, same⟩ := Option.map_eq_some_iff.mp (registered s entry found).2
    have isOpen := congrArg User.isOpen same
    rw [gone c there] at isOpen
    cases isOpen
  exact (kept.alternates s channel).balanced_iff.mpr (by omega)

theorem disconnects (env : Env) (ready : server.waiting s = some c) (authenticated : c.authenticatedTenant.isSome)
    (own : RealtimeContext.OwnEntries server.ctx.presence) (now : Clock) :
    ∃ server', step env server (.disconnect s now) = some server' ∧ Gone server' s ∧
      server'.ctx.presence = server.ctx.presence.depart .leave s := by
  refine ⟨_, step_disconnect env now ready, ?_, ?_⟩
  · intro c' there
    rw [connections_setConnection, if_pos rfl, Option.some.injEq] at there
    exact there ▸ rfl
  · rw [setConnection_ctx, setCtx_ctx, presence_leave _ own, if_pos authenticated]

theorem unbalanced_of_odd (env : Env) (now : Clock) (ready : server.waiting s = some c)
    (authenticated : c.authenticatedTenant.isSome)
    (own : RealtimeContext.OwnEntries server.ctx.presence) {channel : ChannelKey}
    (silent : ∀ entry, AList.lookup s server.ctx.presence.sessions = some entry → entry.channels = [])
    (odd : (eventsOf server.ctx.presence.published s channel).length % 2 = 1) :
    ∃ server', step env server (.disconnect s now) = some server' ∧ ¬ Balanced server' := by
  obtain ⟨server', taken, gone, presence⟩ := disconnects env ready authenticated own now
  refine ⟨server', taken, fun balanced => ?_⟩
  obtain ⟨alternates, counts⟩ := balanced s channel
  have same : server'.ctx.presence.published = server.ctx.presence.published := by
    rw [presence, PresenceService.depart]
    cases found : AList.lookup s server.ctx.presence.sessions with
    | none => simp [PresenceService.announce, PresenceService.remove]
    | some entry =>
        simp [PresenceService.announce, PresenceService.remove, PresenceEntry.departures,
          silent entry found]
  have even := alternates.balanced_iff.mp (counts gone)
  rw [same] at even
  omega

theorem handled_exact (admitted : Admitted server s bytes now c frame)
    (taken : step env server (.inbound s bytes now) = some server')
    (opcode : frame.opcode = .subscribe) (owned : c.authenticatedTenant = some frame.tenantId)
    (exact : isPattern frame.channelId = false) :
    server'.ctx.presence = (server.ctx.presence.trackChannel s frame.channelId).announce
        [((namedKey frame).presenceKey, s, .join)] ∧
      ∃ c', server'.waiting s = some c' ∧ c'.authenticatedTenant = some frame.tenantId := by
  obtain ⟨command, tenant, ctx, handles, rfl⟩ := admitted.handled taken
  have executed := handles.executed
  rw [owned, executeInner_exact _ _ _ _ _ _ _ opcode exact, Prod.mk.injEq, Prod.mk.injEq] at executed
  obtain ⟨rfl, rfl, rfl⟩ := executed
  obtain ⟨_, isOpen, idle⟩ := waiting_eq_some admitted.ready
  exact ⟨rfl, _, waiting_set isOpen idle, rfl⟩

theorem handled_unsubExact (admitted : Admitted server s bytes now c frame)
    (taken : step env server (.inbound s bytes now) = some server')
    (opcode : frame.opcode = .unsub) (owned : c.authenticatedTenant = some frame.tenantId)
    (exact : isPattern frame.channelId = false) :
    server'.ctx.presence = (server.ctx.presence.untrackChannel s frame.channelId).announce
      [((namedKey frame).presenceKey, s, .leave)] := by
  obtain ⟨command, tenant, ctx, handles, rfl⟩ := admitted.handled taken
  have executed := handles.executed
  rw [owned, executeInner_unsubExact _ _ _ _ _ _ _ opcode exact, Prod.mk.injEq, Prod.mk.injEq] at executed
  obtain ⟨rfl, rfl, rfl⟩ := executed
  rfl

theorem handled_auth (admitted : Admitted server s bytes now c frame)
    (taken : step env server (.inbound s bytes now) = some server') {claims : Claims}
    (accepted : acceptedClaims env frame now server.ctx = some claims) :
    server'.ctx.presence = server.ctx.presence.register frame.tenantId s claims.sub now ∧
      ∃ c', server'.waiting s = some c' ∧ c'.authenticatedTenant = some frame.tenantId := by
  obtain ⟨command, tenant, ctx, handles, rfl⟩ := admitted.handled taken
  obtain ⟨rfl, rfl, rfl⟩ := handles.accepted accepted
  obtain ⟨_, isOpen, idle⟩ := waiting_eq_some admitted.ready
  exact ⟨rfl, _, waiting_set isOpen idle, rfl⟩

theorem eventsOf_announced (p : PresenceService) (named : ChannelKey) (event : PresenceEvent)
    (s : SessionId) : eventsOf (p.announce [(named.presenceKey, s, event)]).published s named =
      eventsOf p.published s named ++ [event] := by
  show eventsOf (p.published ++ _) s named = _
  rw [eventsOf_append, eventsOf_singleton, if_pos ⟨rfl, rfl⟩]

theorem keepsTrack_of_balanced {e : Event} (kept : Kept server.ctx.presence)
    (registered : Registered server.ctx.presence server.users)
    (taken : step env server e = some server') (balanced : Balanced server')
    (after : ∀ s now t', step env server' (.disconnect s now) = some t' → Balanced t') :
    KeepsTrack env server e := by
  have registered' := registered_step server e server' registered taken
  cases e with
  | inbound s bytes now =>
      intro c frame admitted
      refine ⟨fun opcode owned exact => ?_, fun opcode owned exact => ?_, fun claims accepted => ?_⟩
      · obtain ⟨presence, c', ready', tenant⟩ := handled_exact admitted taken opcode owned exact
        have log := eventsOf_announced (server.ctx.presence.trackChannel s frame.channelId)
          (namedKey frame) .join s
        rw [← presence] at log
        by_contra untracked
        have tracks : Tracks server.ctx.presence s (namedKey frame) := by
          by_contra not
          have even : ¬ (eventsOf server.ctx.presence.published s (namedKey frame)).length % 2 = 1 :=
            fun odd => not ((kept.tracked s (namedKey frame)).mp odd)
          -- The join is announced and no entry lists it.
          have absent : AList.lookup s server.ctx.presence.sessions = none := by
            cases found : AList.lookup s server.ctx.presence.sessions with
            | none => rfl
            | some entry =>
                refine absurd ⟨entry, found, fun listed => not ?_⟩ untracked
                exact ⟨entry, found, tenant_of_entry registered admitted.ready owned found, listed⟩
          have silent : ∀ entry, AList.lookup s server'.ctx.presence.sessions = some entry →
              entry.channels = [] := by
            intro entry found
            rw [presence] at found
            change AList.lookup s (Table.adjust s _ server.ctx.presence.sessions) = some entry at found
            rw [Table.lookup_adjust, absent] at found
            cases found
          have odd : (eventsOf server'.ctx.presence.published s (namedKey frame)).length % 2 = 1 := by
            rw [log, List.length_append, List.length_singleton]
            change ¬ (eventsOf (server.ctx.presence.trackChannel s frame.channelId).published s
              (namedKey frame)).length % 2 = 1 at even
            omega
          obtain ⟨t', left, unbalanced⟩ := unbalanced_of_odd env now ready'
            (by rw [tenant]; rfl) registered'.own silent odd
          exact unbalanced (after s now t' left)
        have odd := (kept.tracked s (namedKey frame)).mpr tracks
        have alternates := (balanced s (namedKey frame)).1
        rw [log] at alternates
        have even := (alternates_concat.mp alternates).2.mp rfl
        change (eventsOf server.ctx.presence.published s (namedKey frame)).length % 2 = 0 at even
        omega
      · have presence := handled_unsubExact admitted taken opcode owned exact
        have log := eventsOf_announced (server.ctx.presence.untrackChannel s frame.channelId)
          (namedKey frame) .leave s
        rw [← presence] at log
        have alternates := (balanced s (namedKey frame)).1
        rw [log] at alternates
        have odd : ¬ (eventsOf server.ctx.presence.published s (namedKey frame)).length % 2 = 0 :=
          fun even => absurd ((alternates_concat.mp alternates).2.mpr even) (by decide)
        obtain ⟨entry, found, _, listed⟩ := (kept.tracked s (namedKey frame)).mp (by omega)
        exact ⟨entry, found, listed⟩
      · intro entry found
        obtain ⟨presence, c', ready', tenant⟩ := handled_auth admitted taken accepted
        by_contra listed
        obtain ⟨channelId, member⟩ := List.exists_mem_of_ne_nil _ listed
        have odd := (kept.tracked s ⟨entry.tenantId, channelId⟩).mpr ⟨entry, found, rfl, member⟩
        have silent : ∀ entry, AList.lookup s server'.ctx.presence.sessions = some entry →
            entry.channels = [] := by
          intro fresh there
          rw [presence] at there
          change AList.lookup s (AList.insert s _ server.ctx.presence.sessions) = some fresh at there
          rw [AList.lookup_insert, Option.some.injEq] at there
          exact there ▸ rfl
        have same : server'.ctx.presence.published = server.ctx.presence.published := by
          rw [presence]
          rfl
        obtain ⟨t', left, unbalanced⟩ := unbalanced_of_odd env now ready'
          (by rw [tenant]; rfl) registered'.own silent (same ▸ odd)
        exact unbalanced (after s now t' left)
  | _ => trivial

end

/-- The frame of an event of the log, with the key it goes to. -/
def announcement (entry : ChannelKey × SessionId × PresenceEvent) : ChannelKey × Message :=
  let frame := FrameBuilder.build
    { opcode := .presence, tenantId := entry.1.tenantId, channelId := entry.1.channelId
      payload := entry.2.2.asStr ++ ":" ++ String.ofList entry.2.1.toText }
  (entry.1, ⟨frame, entry.1⟩)

def isPresence (m : Message) : Bool := (Opcode.tryFrom (m.frame.byteAt offOpcode)).toOption = some .presence

def presenceFrames (r : ChannelRouterService Message) : List (ChannelKey × Message) :=
  (r.journal.filter fun entry => isPresence entry.2.1).map fun entry => (entry.1, entry.2.1)

/-- The log is what the journal of the router holds of presence frames. -/
def Journalled (ctx : RealtimeContext) : Prop :=
  presenceFrames ctx.channelRouter = ctx.presence.published.map announcement

theorem isPresence_raw (frame : Frame) (key : ChannelKey) :
    isPresence ⟨frame.raw, key⟩ = decide (frame.opcode = .presence) := by
  simp [isPresence, frame.opcodeEq, Except.toOption]

theorem isPresence_announcement (entry : ChannelKey × SessionId × PresenceEvent) :
    isPresence (announcement entry).2 = true := by
  have built : ∀ b : FrameBuilder, b.opcode = .presence → ∀ key, isPresence ⟨b.build, key⟩ = true := by
    intro b opcode key
    rw [← b.raw_built, isPresence_raw]
    exact decide_eq_true opcode
  exact built _ rfl _

theorem presenceFrames_publish (tenantId : TenantId) (key : ChannelKey) (m : Message) (nowSecs : Nat)
    (r : ChannelRouterService Message) : presenceFrames (r.publish tenantId key m nowSecs).2 =
      presenceFrames r ++ if tenantId = key.tenantId ∧ isPresence m = true then [(key, m)] else [] := by
  unfold ChannelRouterService.publish
  split
  · rename_i foreign
    rw [if_neg fun both => foreign both.1, List.append_nil]
  · rename_i own
    rw [presenceFrames, List.filter_append, List.map_append]
    cases seen : isPresence m with
    | true => simp [seen, not_not.mp own, presenceFrames]
    | false => simp [seen, presenceFrames]

section
variable {ctx ctx' : RealtimeContext}

theorem Journalled.of_same (journalled : Journalled ctx)
    (router : ctx'.channelRouter.journal = ctx.channelRouter.journal)
    (presence : ctx'.presence.published = ctx.presence.published) : Journalled ctx' := by
  unfold Journalled presenceFrames
  rw [router, presence]
  exact journalled

theorem Journalled.publishPresenceEvent (journalled : Journalled ctx) (tenantId : TenantId) (channelId : String)
    (s : SessionId) (event : PresenceEvent) (now : Clock) :
    Journalled (ctx.publishPresenceEvent tenantId channelId s event now) := by
  let entry := ((ChannelKey.mk tenantId channelId).presenceKey, s, event)
  show presenceFrames (ctx.channelRouter.publish tenantId entry.1 (announcement entry).2 now.unixSecs).2 =
    (ctx.presence.published ++ [entry]).map announcement
  rw [presenceFrames_publish, if_pos ⟨rfl, isPresence_announcement entry⟩, journalled, List.map_append]
  rfl

theorem Journalled.departAll (journalled : Journalled ctx) (s : SessionId) (event : PresenceEvent) (now : Clock)
    (entry : PresenceEntry) : Journalled (ctx.departAll s event now entry) := by
  unfold RealtimeContext.departAll
  induction entry.channels generalizing ctx with
  | nil => exact journalled
  | cons channelId rest ih =>
      exact ih ((journalled.publishPresenceEvent entry.tenantId channelId s event now).of_same rfl rfl)

theorem Journalled.sweep (journalled : Journalled ctx) (order : List SessionId) (now : Clock) :
    Journalled (ctx.sweep order now) := by
  have removed : ∀ (order : List SessionId) (p : PresenceService),
      (order.foldl (fun p id => p.remove id) p).published = p.published := by
    intro order
    induction order with
    | nil => exact fun _ => rfl
    | cons id order ih => exact fun p => ih (p.remove id)
  have departed : ∀ (entries : List PresenceEntry) (ctx : RealtimeContext), Journalled ctx →
      Journalled (entries.foldl (fun ctx entry => ctx.departAll entry.sessionId .timeout now entry) ctx) := by
    intro entries
    induction entries with
    | nil => exact fun _ start => start
    | cons entry entries ih => exact fun ctx start => ih _ (start.departAll _ _ _ _)
  exact departed _ _ (journalled.of_same rfl (removed order ctx.presence))

theorem Journalled.leave (journalled : Journalled ctx) (s : SessionId) (c : Connection) (now : Clock) :
    Journalled (Server.leave s c now ctx) := by
  unfold Server.leave
  simp only
  split
  · unfold RealtimeContext.handleLeave
    split
    · exact journalled.of_same rfl rfl
    · refine Journalled.departAll ?_ s .leave now _
      exact journalled.of_same rfl rfl
  · exact journalled.of_same rfl rfl

theorem Journalled.publishAndFanout (journalled : Journalled ctx) {frame : Frame} (other : frame.opcode ≠ .presence)
    (tenantId : TenantId) (key : ChannelKey) (now : Clock) :
    Journalled (ctx.publishAndFanout tenantId key frame now) := by
  unfold Journalled
  rw [RealtimeContext.channelRouter_publishAndFanout, RealtimeContext.presence_publishAndFanout, presenceFrames_publish,
    isPresence_raw, if_neg fun both => other (of_decide_eq_true both.2), List.append_nil]
  exact journalled

theorem Journalled.publishBuilt (journalled : Journalled ctx) (tenantId : TenantId) (channelId payload : String)
    (now : Clock) : Journalled (UseCases.publishBuilt tenantId channelId payload now ctx) := by
  have published : ∀ b : FrameBuilder, b.opcode = .publish →
      Journalled (ctx.publishAndFanout tenantId ⟨tenantId, channelId⟩ b.built now) := by
    intro b opcode
    refine journalled.publishAndFanout (fun same => ?_) _ _ _
    have other : b.opcode = .presence := same
    rw [opcode] at other
    cases other
  unfold UseCases.publishBuilt
  simp only
  rw [← FrameBuilder.raw_built, Frame.parse_raw]
  exact (published _ rfl).of_same rfl rfl

theorem Journalled.httpStep (journalled : Journalled ctx) (env : Env) (request : HttpRequest) (now : Clock) :
    Journalled (Server.httpStep env request now ctx) := by
  have charged : Journalled (chargedTenant request.tenantId now ctx) := journalled.of_same rfl rfl
  rw [httpStep_eq]
  split
  · split
    · split
      · exact charged
      · exact charged.publishBuilt _ _ _ now
    · exact charged
  · exact journalled

theorem journalled_dispatched {codec : TokenCodec} {redis : RedisStreams Message} {s : SessionId} {rx : ReceiverId}
    {tenant tenant' : Option TenantId} {frame : Frame} {now : Clock} {command : FrameCommand}
    (journalled : Journalled ctx)
    (done : Dispatched codec redis s rx tenant frame now ctx command tenant' ctx') : Journalled ctx' := by
  cases done with
  | exact =>
      have tracked : Journalled { ctx with
          channelRouter := ctx.channelRouter.attach (namedKey frame) rx
          presence := ctx.presence.trackChannel s frame.channelId } := journalled.of_same rfl rfl
      exact tracked.publishPresenceEvent _ _ _ _ _
  | unsubExact =>
      have untracked : Journalled { ctx with presence := ctx.presence.untrackChannel s frame.channelId } :=
        journalled.of_same rfl rfl
      exact untracked.publishPresenceEvent _ _ _ _ _
  | published key named =>
      refine journalled.publishAndFanout (fun same => ?_) _ _ _
      simp [publishKey, same] at named
  | replayed frames router _ _ _ found =>
      refine journalled.of_same ?_ rfl
      have same : router = (ctx.channelRouter.replay redis frame.tenantId (namedKey frame)
        (sinceSecs frame)).2 := (congrArg Prod.snd found).symm
      show router.journal = _
      rw [same, journal_replay]
  | _ => exact journalled.of_same rfl rfl

end

/-- No presence frame comes off the bus. -/
def BusSilent (env : Env) (_ : Server) : Event → Prop
  | .clusterReceive payload _ => ∀ frame, remoteFrame env.instanceId payload = some frame → frame.opcode ≠ .presence
  | _ => True

theorem journalled_step {env : Env} {server server' : Server} {e : Event} (journalled : Journalled server.ctx)
    (silent : BusSilent env server e) (taken : step env server e = some server') : Journalled server'.ctx := by
  cases step_cases taken with
  | handled handles =>
      rename_i s bytes now c frame command tenant ctx
      have charged : Journalled (charged s frame now server.ctx) := journalled.of_same rfl rfl
      have dispatched := journalled_dispatched charged handles.dispatched
      cases command with
      | closeAuthFailed =>
          have counted : Journalled { ctx with
              metrics := ctx.metrics.recordFrame frame.tenantId frame.opcode.label } := dispatched.of_same rfl rfl
          exact counted.leave _ _ _
      | _ => exact dispatched.of_same rfl rfl
  | ended | orphaned | dropped =>
      rename_i task _ _ _
      refine journalled.of_same ?_ rfl
      show (server.ctx.channelRouter.detach task.source _).journal = _
      cases task.source <;> rfl
  | closed => exact journalled.leave _ _ _
  | swept => exact journalled.sweep _ _
  | requested => exact journalled.httpStep env _ _
  | administered =>
      rename_i op
      cases op <;> exact journalled.of_same rfl rfl
  | reinjected found =>
      rename_i payload now frame
      show presenceFrames (server.ctx.channelRouter.publish _ _ ⟨frame.raw, _⟩ _).2 = _
      rw [presenceFrames_publish, isPresence_raw, if_neg fun both => silent frame found (of_decide_eq_true both.2),
        List.append_nil]
      exact journalled
  | _ => exact journalled.of_same rfl rfl

/-- In a run where no presence frame comes off the bus, the log is what the journal of the router holds of
presence frames. -/
theorem presenceFrames_eq {env : Env} {config : RateLimitConfig} {timeout : Nat} {hasRedis hasWebPush : Bool}
    {es : List Event} {server : Server}
    (reached : (step env).run (start config timeout hasRedis hasWebPush) es = some server)
    (silent : (step env).Meets (BusSilent env) (start config timeout hasRedis hasWebPush) es) :
    presenceFrames server.ctx.channelRouter = server.ctx.presence.published.map announcement := by
  refine Step.run_invariant_of_meets (I := fun server => Journalled server.ctx) ?_ reached ?_ silent
  · exact fun before e after journalled quiet taken => journalled_step journalled quiet taken
  · cases hasRedis <;> rfl

/-- Joins and departures balance, in every state of a run and should any session disconnect there,
exactly when every step of the run keeps track of what was announced. A frame, a sweep and a disconnect are
single steps here. -/
theorem balanced_iff_keeps_track (env : Env) (config : RateLimitConfig) (timeout : Nat)
    (hasRedis hasWebPush : Bool) {es : List Event} {server : Server}
    (reached : (step env).run (start config timeout hasRedis hasWebPush) es = some server) :
    (step env).Meets (KeepsTrack env) (start config timeout hasRedis hasWebPush) es ↔
      StaysBalanced env (start config timeout hasRedis hasWebPush) es := by
  have opened : Kept (start config timeout hasRedis hasWebPush).ctx.presence := by
    refine ⟨fun s entry found => ?_, fun s channel => alternates_nil, fun s channel => ?_⟩
    · cases found
    · refine iff_of_false (by show ¬ 0 % 2 = 1; decide) ?_
      rintro ⟨entry, found, _⟩
      cases found
  have registered := registered_start config timeout hasRedis hasWebPush
  have keep : ∀ (t : Server) (e : Event) (u : Server),
      Kept t.ctx.presence ∧ Registered t.ctx.presence t.users → KeepsTrack env t e →
      step env t e = some u → Kept u.ctx.presence ∧ Registered u.ctx.presence u.users :=
    fun t e u held tracks taken =>
      ⟨kept_step held.1 held.2 tracks taken, registered_step t e u held.2 taken⟩
  constructor
  · rintro met ds t ⟨rest, rfl⟩ short
    have early := ((Step.meets_append short).mp met).1
    have held := Step.run_invariant_of_meets keep short ⟨opened, registered⟩ early
    refine ⟨balanced_of_kept held.1 held.2, fun s now t' left => ?_⟩
    have after := keep t (.disconnect s now) t' held trivial left
    exact balanced_of_kept after.1 after.2
  · intro every
    refine Step.run_induction (fun ds _ => ds <+: es →
      (step env).Meets (KeepsTrack env) (start config timeout hasRedis hasWebPush) ds)
      (fun _ => trivial) ?_ reached List.prefix_rfl
    intro ds t e u before earlier taken short
    have met := earlier ((List.prefix_append ds [e]).trans short)
    refine (Step.meets_concat before).mpr ⟨met, ?_⟩
    have held := Step.run_invariant_of_meets keep before ⟨opened, registered⟩ met
    obtain ⟨balanced, after⟩ := every _ u short (Step.run_concat_iff.mpr ⟨t, before, taken⟩)
    exact keepsTrack_of_balanced held.1 held.2 taken balanced after

section Sample
open SampleToken Sample

theorem entry_signedIn : AList.lookup sessionOne (signedIn false).ctx.presence.sessions =
    some ⟨tenantOne, sessionOne, "a", [], 0, 0⟩ :=
  AList.lookup_insert _

theorem balanced_inRoom : StaysBalanced env (started false) (signInEvents ++ [subRoom]) := by
  have reached := Step.run_concat_iff.mpr ⟨_, run_signedIn false, step_inRoom⟩
  refine (balanced_iff_keeps_track env {} 30000000000 false false reached).mp ?_
  refine (Step.meets_concat (run_signedIn false)).mpr ⟨?_, ?_⟩
  · refine ⟨trivial, fun _ first => ⟨trivial, fun t second => ⟨?_, fun _ _ => trivial⟩⟩⟩
    obtain rfl := Option.some.inj ((step_registered false).symm.trans first)
    obtain rfl := Option.some.inj ((step_connected rfl).symm.trans second)
    intro c frame admitted
    obtain rfl := frame_of_admitted admitted alice.channel_fits (text_fits alice (by simp [SampleToken.all]))
    refine ⟨fun opcode => ?_, fun opcode => ?_, fun claims _ entry found => ?_⟩
    · cases opcode
    · cases opcode
    · cases found
  · intro c frame admitted
    obtain rfl := frame_of_admitted (b := subFrame "room") admitted (by decide) (Nat.zero_le _)
    refine ⟨fun _ _ _ => ⟨_, entry_signedIn, List.not_mem_nil⟩, fun opcode => ?_, fun claims accepted => ?_⟩
    · cases opcode
    · cases (acceptedClaims_eq_some.mp accepted).1

theorem joined_twice :
    ¬ ∀ (env : Env) (config : RateLimitConfig) (timeout : Nat) (hasRedis hasWebPush : Bool)
      (es : List Event) (server : Server),
      (step env).run (start config timeout hasRedis hasWebPush) es = some server →
        Balanced server := by
  intro claim
  have ready : inRoom.waiting sessionOne = some (aliceConnection.spawnRelay roomParsed.channelId
      (.channel (namedKey roomParsed)) false) := waiting_set rfl rfl
  have again := step_subscribe inRoom "room" (by decide) ready rfl (by decide)
    allowed_inRoom
  have reached := Step.run_concat_iff.mpr ⟨_, Step.run_concat_iff.mpr
    ⟨_, run_signedIn false, step_inRoom⟩, again⟩
  have alternates := (claim env {} 30000000000 false false _ _ reached sessionOne
    (namedKey roomParsed)).1
  have events : eventsOf (subscribed sessionOne (aliceConnection.spawnRelay roomParsed.channelId
      (.channel (namedKey roomParsed)) false) (subParsed "room" (by decide)) epoch
        inRoom).ctx.presence.published sessionOne (namedKey roomParsed) = [.join, .join] := by
    have first : eventsOf inRoom.ctx.presence.published sessionOne (namedKey roomParsed) = [.join] :=
      eventsOf_announced ((signedIn false).ctx.presence.trackChannel sessionOne roomParsed.channelId)
        (namedKey roomParsed) .join sessionOne
    exact (eventsOf_announced (inRoom.ctx.presence.trackChannel sessionOne roomParsed.channelId)
      (namedKey roomParsed) .join sessionOne).trans (congrArg (· ++ [PresenceEvent.join]) first)
  rw [events] at alternates
  exact absurd ((alternates 1 .join rfl).mp rfl) (by decide)

end Sample

end RealtimePlatform.Proof.PresenceBalance
