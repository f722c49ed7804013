import RealtimePlatform.Backend.Attendance
import RealtimePlatform.Backend.Relays
import RealtimePlatform.Proof.Handling

namespace RealtimePlatform.Proof.PresenceAgreement
open Library Backend Backend.Server Backend.UseCases Backend.Connection

def Subscribed (c : Connection) (channelId : String) : Prop :=
  isPattern channelId = false ∧ ∃ task, c.relayAt channelId = some task ∧ task.automatic = false

def AgreesAt (p : PresenceService) (s : SessionId) (c : Connection) : Prop :=
  c.isOpen = true → ∀ tenantId, c.authenticatedTenant = some tenantId →
    ∃ entry, AList.lookup s p.sessions = some entry ∧ entry.tenantId = tenantId ∧
      ∀ channelId, channelId ∈ entry.channels ↔ Subscribed c channelId

def Agrees (server : Server) : Prop :=
  ∀ s c, server.connections s = some c → AgreesAt server.ctx.presence s c

/-- An AUTH is accepted only where the inbox it subscribes is the one exact channel that the session may
have subscribed to, no sweep finds an expired entry, and no relay of a subscribed channel ends. -/
def KeepsInStep (env : Env) (server : Server) : Event → Prop
  | .inbound s bytes now => ∀ c frame claims, Admitted server s bytes now c frame →
      acceptedClaims env frame now server.ctx = some claims →
      ∀ channelId, Subscribed c channelId → channelId = unicastInboxChannel claims.sub
  | .sweep _ now => server.ctx.presence.expired now = []
  | .relayRecv s seq => ∀ c channelId task, server.connections s = some c → c.isOpen = true →
      c.authenticatedTenant.isSome = true → Subscribed c channelId →
      AList.lookup channelId c.relayTasks = some seq → AList.lookup seq c.tasks = some task →
      (server.ctx.channelRouter.receive task.source ⟨s, seq⟩ task.next).isOver = false
  | _ => True

theorem subscribed_iff {c : Connection} {channelId : String} : Subscribed c channelId ↔
    isPattern channelId = false ∧ ∃ source, relayed c channelId = some (source, false) := by
  refine and_congr_right fun _ => ⟨?_, ?_⟩
  · rintro ⟨task, there, manual⟩
    exact ⟨task.source, manual ▸ relayed_eq_some there⟩
  · rintro ⟨source, found⟩
    obtain ⟨task, there, same⟩ := Option.map_eq_some_iff.mp found
    exact ⟨task, there, (Prod.mk.inj same).2⟩

theorem subscribed_congr {c c' : Connection} {channelId : String}
    (same : relayed c' channelId = relayed c channelId) :
    Subscribed c' channelId ↔ Subscribed c channelId := by
  rw [subscribed_iff, subscribed_iff, same]

theorem subscribed_spawnRelay {c : Connection} (numbered : Numbered c) (key : String) (source : Source)
    (automatic : Bool) (channelId : String) :
    Subscribed (c.spawnRelay key source automatic) channelId ↔
      if channelId = key then isPattern channelId = false ∧ automatic = false
      else Subscribed c channelId := by
  rw [subscribed_iff, relayed_spawnRelay numbered]
  split
  · simp
  · exact subscribed_iff.symm

theorem subscribed_unsubscribe (c : Connection) (key channelId : String) :
    Subscribed (c.unsubscribe key) channelId ↔ channelId ≠ key ∧ Subscribed c channelId := by
  rw [subscribed_iff, relayed_unsubscribe, subscribed_iff]
  split <;> simp [*]

section
variable {p p' : PresenceService} {s : SessionId} {c c' : Connection}

theorem AgreesAt.congr (agrees : AgreesAt p s c) (isOpen : c'.isOpen = c.isOpen)
    (tenant : c'.authenticatedTenant = c.authenticatedTenant)
    (entries : AList.lookup s p'.sessions = AList.lookup s p.sessions)
    (subscribed : ∀ channelId, Subscribed c' channelId ↔ Subscribed c channelId) :
    AgreesAt p' s c' := by
  intro nowOpen tenantId authenticated
  rw [isOpen] at nowOpen
  rw [tenant] at authenticated
  obtain ⟨entry, found, own, listed⟩ := agrees nowOpen tenantId authenticated
  exact ⟨entry, entries.trans found, own, fun channelId =>
    (listed channelId).trans (subscribed channelId).symm⟩

theorem AgreesAt.adjust (agrees : AgreesAt p s c) (isOpen : c'.isOpen = c.isOpen)
    (tenant : c'.authenticatedTenant = c.authenticatedTenant) {f : PresenceEntry → PresenceEntry}
    (entries : p'.sessions = Table.adjust s f p.sessions)
    (kept : ∀ entry, (f entry).tenantId = entry.tenantId)
    (listed : ∀ entry, (∀ channelId, channelId ∈ entry.channels ↔ Subscribed c channelId) →
      ∀ channelId, channelId ∈ (f entry).channels ↔ Subscribed c' channelId) :
    AgreesAt p' s c' := by
  intro nowOpen tenantId authenticated
  rw [isOpen] at nowOpen
  rw [tenant] at authenticated
  obtain ⟨entry, found, own, same⟩ := agrees nowOpen tenantId authenticated
  refine ⟨f entry, ?_, (kept entry).trans own, listed entry same⟩
  rw [entries, Table.lookup_adjust, found, Option.map_some]

theorem agreesAt_shut (p : PresenceService) (s : SessionId) (c : Connection) : AgreesAt p s c.shut := by
  intro isOpen
  cases isOpen

end

section
variable {env : Env} {server server' : Server}

theorem agrees_set (agrees : Agrees server) {ctx : RealtimeContext} {s : SessionId} {c : Connection}
    (others : ∀ q, q ≠ s →
      AList.lookup q ctx.presence.sessions = AList.lookup q server.ctx.presence.sessions)
    (own : AgreesAt ctx.presence s c) : Agrees ((server.setCtx ctx).setConnection s c) := by
  intro q c' found
  rw [connections_setConnection, setCtx_connections] at found
  split at found
  · cases found
    rename_i same
    exact same ▸ own
  · rename_i apart
    exact (agrees q c' found).congr rfl rfl (others q apart) fun _ => Iff.rfl

theorem lookup_leave_ne (ctx : RealtimeContext) (own : RealtimeContext.OwnEntries ctx.presence)
    (s : SessionId) (c : Connection) (now : Clock) {q : SessionId} (apart : q ≠ s) :
    AList.lookup q (leave s c now ctx).presence.sessions = AList.lookup q ctx.presence.sessions := by
  rw [presence_leave ctx own]
  split
  · exact PresenceService.lookup_remove_ne apart
  · rfl

end

section
variable {env : Env} {server server' : Server} {s : SessionId} {bytes : List UInt8} {now : Clock}
  {c : Connection} {frame : Frame} {command : FrameCommand} {tenant : Option TenantId}
  {ctx : RealtimeContext}

theorem agrees_of_same (ctx : RealtimeContext) (agrees : Agrees server)
    (there : server.connections s = some c) {c' : Connection} (isOpen : c'.isOpen = c.isOpen)
    (authenticated : c'.authenticatedTenant = c.authenticatedTenant)
    (presence : ctx.presence.sessions = server.ctx.presence.sessions)
    (subscribed : ∀ channelId, Subscribed c' channelId ↔ Subscribed c channelId) :
    Agrees ((server.setCtx ctx).setConnection s c') := by
  refine agrees_set agrees (fun q _ => by rw [presence]) ?_
  exact (agrees s c there).congr isOpen authenticated (by rw [presence]) subscribed

theorem agrees_accepted (agrees : Agrees server) (numbered : Numbered c) {claims : Claims}
    {frame : Frame}
    (alone : ∀ channelId, Subscribed c channelId → channelId = unicastInboxChannel claims.sub)
    (presence : ctx.presence.sessions =
      (server.ctx.presence.register frame.tenantId s claims.sub now).sessions) :
    Agrees ((server.setCtx ctx).setConnection s (Connection.spawnRelay
      (unicastInboxChannel claims.sub) (.channel (inboxKey frame claims.sub)) true
      (identified frame.tenantId claims.sub c))) := by
  refine agrees_set agrees (fun q apart => ?_) ?_
  · rw [presence]
    exact AList.lookup_insert_ne apart
  · intro _ tenantId authenticated
    obtain rfl := Option.some.inj authenticated
    refine ⟨⟨frame.tenantId, s, claims.sub, [], now.instant, now.system⟩, ?_, rfl, fun channelId => ?_⟩
    · rw [presence]
      exact AList.lookup_insert _
    · have renamed : Numbered (identified frame.tenantId claims.sub c) := numbered
      rw [subscribed_spawnRelay renamed]
      refine iff_of_false (List.not_mem_nil) ?_
      split
      · simp
      · exact fun subscribed => absurd (alone channelId subscribed) ‹_›

theorem agrees_handled (handles : Handles env server s bytes now c frame command tenant ctx)
    (own : RealtimeContext.OwnEntries server.ctx.presence) (numbered : Numbered c)
    (agrees : Agrees server) (inStep : KeepsInStep env server (.inbound s bytes now)) :
    Agrees ((server.setCtx (settled s now (returned env server s now c frame tenant) frame command
      ctx)).setConnection s (react frame command (returned env server s now c frame tenant))) := by
  have there : server.connections s = some c := (waiting_eq_some handles.ready).1
  have unchanged : ∀ channelId, Subscribed c channelId ↔ Subscribed c channelId := fun _ => Iff.rfl
  cases handles.dispatched with
  | accepted claims opcode valid =>
      have accepted : acceptedClaims env frame now server.ctx = some claims :=
        acceptedClaims_eq_some.mpr ⟨opcode, valid⟩
      rw [returned_accepted accepted]
      simp only [react, opcode, decide_true]
      exact agrees_accepted agrees numbered
        (inStep c frame claims handles.toAdmitted accepted) rfl
  | rejected err opcode invalid =>
      have refused : acceptedClaims env frame now server.ctx = none := by
        simp only [charged] at invalid
        simp [acceptedClaims, opcode, invalid, Except.toOption]
      rw [returned_refused refused]
      refine agrees_set agrees (fun q apart => ?_) (agreesAt_shut _ _ _)
      exact lookup_leave_ne { charged s frame now server.ctx with
        metrics := server.ctx.metrics.recordFrame frame.tenantId frame.opcode.label } own s c now apart
  | idle opcode =>
      rw [returned_eq opcode]
      exact agrees_of_same _ agrees there rfl rfl rfl unchanged
  | beat opcode =>
      rw [returned_eq (by rw [opcode]; decide)]
      refine agrees_set agrees (fun q apart => Table.lookup_adjust_ne _ _ apart) ?_
      exact (agrees s c there).adjust rfl rfl rfl (fun _ => rfl) fun _ same => same
  | published key named owned =>
      rw [returned_eq (opcode_of_publishKey named)]
      have kept := RealtimeContext.presence_publishAndFanout frame.tenantId key frame now
        (charged s frame now server.ctx)
      exact agrees_of_same _ agrees there rfl rfl (congrArg (·.sessions) kept) unchanged
  | replayed frames router opcode owned exact found =>
      rw [returned_eq (by rw [opcode]; decide)]
      exact agrees_of_same _ agrees there rfl rfl rfl unchanged
  | unsubPattern opcode owned pattern =>
      rw [returned_eq (by rw [opcode]; decide)]
      refine agrees_of_same _ agrees there rfl rfl rfl fun channelId => ?_
      rw [show react frame _ c = c.unsubscribe frame.channelId from rfl, subscribed_unsubscribe]
      refine and_iff_right_of_imp ?_
      rintro ⟨exact, _⟩ rfl
      rw [pattern] at exact
      cases exact
  | unsubExact opcode owned exact =>
      rw [returned_eq (by rw [opcode]; decide)]
      refine agrees_set agrees (fun q apart => Table.lookup_adjust_ne _ _ apart) ?_
      refine (agrees s c there).adjust rfl rfl rfl (fun _ => rfl) fun entry same channelId => ?_
      rw [show react frame _ c = c.unsubscribe frame.channelId from rfl, subscribed_unsubscribe,
        ← same channelId]
      simp [and_comm]
  | pattern opcode owned pattern =>
      rw [returned_eq (by rw [opcode]; decide)]
      refine agrees_of_same _ agrees there rfl rfl rfl fun channelId => ?_
      refine (subscribed_spawnRelay numbered _ _ _ channelId).trans ?_
      split
      · subst channelId
        simp [Subscribed, pattern]
      · rfl
  | exact opcode owned exact =>
      rw [returned_eq (by rw [opcode]; decide)]
      refine agrees_set agrees (fun q apart => Table.lookup_adjust_ne _ _ apart) ?_
      refine (agrees s c there).adjust rfl rfl rfl (fun _ => rfl) fun entry same channelId => ?_
      refine Iff.trans ?_ (subscribed_spawnRelay numbered _ _ _ channelId).symm
      simp only [List.mem_append, List.mem_singleton, same channelId]
      split
      · subst channelId
        simp [exact, opcode]
      · simp [*]

end

theorem subscribed_erase {c : Connection} {seq : Nat}
    (unnamed : ∀ channelId, Subscribed c channelId → AList.lookup channelId c.relayTasks ≠ some seq)
    (channelId : String) :
    Subscribed { c with tasks := AList.erase seq c.tasks } channelId ↔ Subscribed c channelId := by
  constructor
  · rintro ⟨exact, task, relaying, manual⟩
    obtain ⟨other, named, there⟩ := Option.bind_eq_some_iff.mp relaying
    have before := (Table.lookup_of_lookup_erase there).2
    exact ⟨exact, task, Option.bind_eq_some_iff.mpr ⟨other, named, before⟩, manual⟩
  · intro subscribed
    obtain ⟨exact, task, relaying, manual⟩ := subscribed
    obtain ⟨other, named, there⟩ := Option.bind_eq_some_iff.mp relaying
    have apart : other ≠ seq := by
      rintro rfl
      exact unnamed channelId ⟨exact, task, relaying, manual⟩ named
    have after := (AList.lookup_erase_ne apart).trans there
    exact ⟨exact, task, Option.bind_eq_some_iff.mpr ⟨other, named, after⟩, manual⟩

theorem lookup_foldl_depart (event : PresenceEvent) (p : PresenceService) {order : List SessionId}
    {s : SessionId} (gone : s ∈ order ∨ AList.lookup s p.sessions = none) :
    AList.lookup s (order.foldl (PresenceService.depart event) p).sessions = none := by
  induction order generalizing p with
  | nil => exact gone.resolve_left List.not_mem_nil
  | cons q order ih =>
      apply ih
      by_cases same : s = q
      · subst same
        exact Or.inr (AList.lookup_erase _ _)
      · rcases gone with member | absent
        · exact Or.inl ((List.mem_cons.mp member).resolve_left same)
        · exact Or.inr ((PresenceService.lookup_remove_ne same).trans absent)

structure Sound (server : Server) : Prop where
  wired : ∀ s c, server.connections s = some c → Wired c
  registered : Registered server.ctx.presence server.users

section
variable {env : Env} {server server' : Server} {e : Event}

theorem sound_step (server : Server) (e : Event) (server' : Server) (sound : Sound server)
    (taken : step env server e = some server') : Sound server' where
  wired s c' found := by
    rcases step_moved taken found with ⟨transport, _, _, rfl⟩ | ⟨c, there, moved⟩
    · exact wired_new transport
    · exact wired_of_moved (sound.wired s c there) moved
  registered := registered_step server e server' sound.registered taken

theorem agrees_of_presence (agrees : Agrees server) (connections : server'.connections = server.connections)
    (presence : server'.ctx.presence.sessions = server.ctx.presence.sessions) : Agrees server' := by
  intro s c there
  rw [connections] at there
  exact (agrees s c there).congr rfl rfl (by rw [presence]) fun _ => Iff.rfl

theorem agrees_dropTask (agrees : Agrees server) {s : SessionId} {c : Connection} {seq : Nat}
    (task : RelayTask) (there : server.connections s = some c)
    (unnamed : c.isOpen = true → c.authenticatedTenant.isSome = true → ∀ channelId,
      Subscribed c channelId → AList.lookup channelId c.relayTasks ≠ some seq) :
    Agrees (server.dropTask s seq task c) := by
  refine agrees_set agrees (fun _ _ => rfl) fun isOpen tenantId authenticated => ?_
  have kept := subscribed_erase (unnamed isOpen (Option.isSome_of_eq_some authenticated))
  have same : AgreesAt server.ctx.presence s { c with tasks := AList.erase seq c.tasks } :=
    (agrees s c there).congr rfl rfl rfl kept
  exact same isOpen tenantId authenticated

theorem agrees_step (sound : Sound server) (agrees : Agrees server) (inStep : KeepsInStep env server e)
    (taken : step env server e = some server') : Agrees server' := by
  have own := sound.registered.own
  cases step_cases taken with
  | connected =>
      refine agrees_set agrees (fun _ _ => rfl) fun _ tenantId authenticated => ?_
      cases authenticated
  | handled handles =>
      have there := (waiting_eq_some handles.ready).1
      exact agrees_handled handles own (sound.wired _ _ there).numbered agrees inStep
  | received there running =>
      exact agrees_of_same server.ctx agrees there rfl rfl rfl fun channelId =>
        subscribed_congr (relayed_congr rfl (sameTasks_insert running rfl rfl))
  | queued there running =>
      exact agrees_of_same server.ctx agrees there rfl rfl rfl fun channelId =>
        subscribed_congr (relayed_congr rfl (sameTasks_insert running rfl rfl))
  | ended there running finished =>
      refine agrees_dropTask agrees _ there fun isOpen authenticated channelId subscribed named => ?_
      have lasting := inStep _ channelId _ there isOpen authenticated subscribed named running
      rw [finished] at lasting
      cases lasting
  | orphaned there running shut =>
      refine agrees_dropTask agrees _ there fun isOpen => ?_
      rw [shut] at isOpen
      cases isOpen
  | dropped there running aborted =>
      refine agrees_dropTask agrees _ there fun isOpen _ channelId _ named => ?_
      have current := (sound.wired _ _ there).running isOpen channelId _ _ named running
      rw [aborted] at current
      cases current
  | replayed there =>
      exact agrees_of_same server.ctx agrees there rfl rfl rfl fun _ => Iff.rfl
  | wrote ready =>
      exact agrees_of_same server.ctx agrees (waiting_eq_some ready).1 rfl rfl rfl
        fun _ => Iff.rfl
  | closed ready =>
      exact agrees_set agrees (fun q apart => lookup_leave_ne _ own _ _ _ apart) (agreesAt_shut _ _ _)
  | swept listed =>
      rename_i order now
      have nobody : order = [] := by
        rw [show server.ctx.presence.expired now = [] from inStep] at listed
        exact List.perm_nil.mp listed
      subst nobody
      refine agrees_of_presence agrees rfl ?_
      exact congrArg (·.sessions) (RealtimeContext.presence_sweep now server.ctx List.nodup_nil)
  | requested =>
      exact agrees_of_presence agrees rfl (congrArg (·.sessions) (presence_httpStep env _ _ server.ctx))
  | administered =>
      rename_i op
      cases op <;> exact agrees_of_presence agrees rfl rfl
  | _ => exact agrees_of_presence agrees rfl rfl

theorem inStep_of_agrees (sound : Sound server) (agrees : Agrees server) (after : Agrees server')
    (taken : step env server e = some server') : KeepsInStep env server e := by
  cases e with
  | inbound s bytes now =>
      intro c frame claims admitted accepted channelId subscribed
      by_contra other
      obtain ⟨there, isOpen, _⟩ := waiting_eq_some admitted.ready
      obtain ⟨presence, found⟩ := admitted.authenticated accepted taken
      obtain ⟨entry, listed, _, channels⟩ := after s _ found isOpen frame.tenantId rfl
      have renamed : Numbered (identified frame.tenantId claims.sub c) :=
        (sound.wired s c there).numbered
      have still := (subscribed_spawnRelay renamed (unicastInboxChannel claims.sub)
        (.channel (inboxKey frame claims.sub)) true channelId).mpr (by rwa [if_neg other])
      rw [presence, show AList.lookup s (server.ctx.presence.register frame.tenantId s claims.sub
        now).sessions = some ⟨frame.tenantId, s, claims.sub, [], now.instant, now.system⟩ from
          AList.lookup_insert _, Option.some.injEq] at listed
      have member := (channels channelId).mpr still
      rw [← listed] at member
      cases member
  | sweep order now =>
      refine List.eq_nil_iff_forall_not_mem.mpr fun s expired => ?_
      cases step_cases taken with
      | swept listed =>
          obtain ⟨⟨_, entry⟩, kept, rfl⟩ := List.mem_map.mp expired
          have found := AList.mem_lookup_iff.mpr (List.mem_filter.mp kept).1
          obtain ⟨c, there, user⟩ := Option.map_eq_some_iff.mp (sound.registered _ entry found).2
          obtain ⟨isOpen, authenticated⟩ := User.mk.inj user
          obtain ⟨entry', remaining, _⟩ := after _ c there isOpen entry.tenantId authenticated
          have distinct := listed.nodup_iff.mpr (PresenceService.nodup_expired _ _)
          have swept := RealtimeContext.presence_sweep now server.ctx distinct
          rw [setCtx_ctx, swept, lookup_foldl_depart .timeout _ (Or.inl (listed.mem_iff.mpr expired))]
            at remaining
          cases remaining
  | relayRecv s seq =>
      intro c channelId task there isOpen authenticated subscribed named running
      cases step_cases taken with
      | received there' running' free got =>
          obtain rfl := Option.some.inj (there.symm.trans there')
          obtain rfl := Option.some.inj (running.symm.trans running')
          rw [got]
          rfl
      | ended there' running' finished =>
          obtain rfl := Option.some.inj (there.symm.trans there')
          obtain rfl := Option.some.inj (running.symm.trans running')
          obtain ⟨tenantId, signedIn⟩ := Option.isSome_iff_exists.mp authenticated
          obtain ⟨entry, found, _, channels⟩ := agrees s c there isOpen tenantId signedIn
          have here := connections_dropTask s seq task c server
          obtain ⟨entry', found', _, channels'⟩ := after s _ here isOpen tenantId signedIn
          obtain rfl := Option.some.inj (found.symm.trans found')
          obtain ⟨_, survivor, relaying, _⟩ :=
            (channels' channelId).mp ((channels channelId).mpr subscribed)
          obtain ⟨other, named', there'⟩ := Option.bind_eq_some_iff.mp relaying
          obtain rfl := Option.some.inj (named.symm.trans named')
          exact absurd rfl (Table.lookup_of_lookup_erase there').1
  | _ => trivial

end

/-- Presence agrees with the subscriptions in every state of a run exactly when no step of the run parts
them. -/
theorem agrees_iff_keeps_in_step (env : Env) (config : RateLimitConfig) (timeout : Nat)
    (hasRedis hasWebPush : Bool) {es : List Event} {server : Server}
    (reached : (step env).run (start config timeout hasRedis hasWebPush) es = some server) :
    (step env).Meets (KeepsInStep env) (start config timeout hasRedis hasWebPush) es ↔
      (step env).Throughout Agrees (start config timeout hasRedis hasWebPush) es := by
  have sound : Sound (start config timeout hasRedis hasWebPush) :=
    ⟨fun s c there => (by cases there), registered_start config timeout hasRedis hasWebPush⟩
  have agrees : Agrees (start config timeout hasRedis hasWebPush) := fun s c there => by cases there
  refine Step.meets_iff_throughout sound_step (fun t e u sound agrees taken => ?_) reached sound agrees
  exact ⟨fun inStep => agrees_step sound agrees inStep taken,
    fun after => inStep_of_agrees sound agrees after taken⟩

section Sample
open SampleToken Sample

theorem agrees_inRoom : (step env).Throughout Agrees (started false) (signInEvents ++ [subRoom]) := by
  have reached := Step.run_concat_iff.mpr ⟨_, run_signedIn false, step_inRoom⟩
  refine (agrees_iff_keeps_in_step env {} 30000000000 false false reached).mp ?_
  refine (Step.meets_concat (run_signedIn false)).mpr ⟨?_, ?_⟩
  · refine ⟨trivial, fun _ first => ⟨trivial, fun t second => ⟨?_, fun _ _ => trivial⟩⟩⟩
    obtain rfl := Option.some.inj ((step_registered false).symm.trans first)
    obtain rfl := Option.some.inj ((step_connected rfl).symm.trans second)
    rintro c frame claims admitted _ channelId ⟨_, task, relaying, _⟩
    have opened : (connected sessionOne (registered false)).connections sessionOne =
        some (Connection.new .webSocket) := connections_setConnection_self _ _ _
    obtain rfl := Option.some.inj ((waiting_eq_some admitted.ready).1.symm.trans opened)
    cases relaying
  · intro c frame claims admitted accepted
    obtain rfl := frame_of_admitted (b := subFrame "room") admitted (by decide) (Nat.zero_le _)
    cases (acceptedClaims_eq_some.mp accepted).1

theorem not_agrees_signedInTwice :
    ¬ ∀ (env : Env) (config : RateLimitConfig) (timeout : Nat) (hasRedis hasWebPush : Bool)
      (es : List Event) (server : Server),
      (step env).run (start config timeout hasRedis hasWebPush) es = some server →
        Agrees server := by
  intro claim
  have ready : inRoom.waiting sessionOne = some (aliceConnection.spawnRelay roomParsed.channelId
      (.channel (namedKey roomParsed)) false) := waiting_set rfl rfl
  have again := step_auth env inRoom sessionOne _ epoch alice (by simp [SampleToken.all]) rfl ready rfl
    allowed_inRoom (by decide)
  have reached := Step.run_concat_iff.mpr ⟨_, Step.run_concat_iff.mpr
    ⟨_, run_signedIn false, step_inRoom⟩, again⟩
  obtain ⟨entry, found, _, channels⟩ := claim env {} 30000000000 false false _ _ reached sessionOne _
    (connections_setConnection_self _ _ _) rfl tenantOne rfl
  obtain rfl := Option.some.inj ((AList.lookup_insert _).symm.trans found)
  have relaying := (channels "room").mpr ⟨by decide, ⟨.channel (namedKey roomParsed), false, 0, none, false⟩,
    rfl, rfl⟩
  cases relaying

end Sample

end RealtimePlatform.Proof.PresenceAgreement
