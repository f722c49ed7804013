import RealtimePlatform.Backend.Relays
import RealtimePlatform.Proof.Handling

namespace RealtimePlatform.Proof.SessionIsolation
open Library Backend Backend.Server Backend.UseCases Backend.Connection

def Rightful (c : Connection) (source : Source) (automatic : Bool) : Prop :=
  c.authenticatedTenant = some source.tenantId ∧ (automatic = true →
    ∃ tenantId sub, c.identity = some (tenantId, sub) ∧
      source = .channel ⟨tenantId, unicastInboxChannel sub⟩)

def Isolated (server : Server) : Prop :=
  ∀ s c, server.connections s = some c → ∀ key task, c.relayAt key = some task →
    Rightful c task.source task.automatic

/-- An AUTH is accepted only where every relay other than the one it replaces is of its tenant and was
subscribed by a SUB. -/
def LeavesNoStranger (env : Env) (server : Server) : Event → Prop
  | .inbound s bytes now => ∀ c frame claims, Admitted server s bytes now c frame →
      acceptedClaims env frame now server.ctx = some claims →
      ∀ key task, c.relayAt key = some task → key ≠ unicastInboxChannel claims.sub →
        task.source.tenantId = frame.tenantId ∧ task.automatic = false
  | _ => True

structure Sound (c : Connection) : Prop where
  numbered : Numbered c
  inboxes : ∀ key source, relayed c key = some (source, true) →
    ∃ tenantId, source = .channel ⟨tenantId, key⟩

theorem sound_new (transport : Transport) : Sound (Connection.new transport) where
  numbered key seq found := by cases found
  inboxes key source found := by cases found

theorem sound_spawnRelay {c : Connection} (sound : Sound c) (name : String) (source : Source)
    (automatic : Bool) (inbox : automatic = true → ∃ tenantId, source = .channel ⟨tenantId, name⟩) :
    Sound (c.spawnRelay name source automatic) where
  numbered key seq found := by
    show seq < c.spawned + 1
    by_cases own : key = name
    · subst own
      have last : AList.lookup key (c.spawnRelay key source automatic).relayTasks = some c.spawned :=
        AList.lookup_insert _
      rw [last, Option.some.injEq] at found
      omega
    · have kept : AList.lookup key (c.spawnRelay name source automatic).relayTasks =
          AList.lookup key c.relayTasks := AList.lookup_insert_ne own
      rw [kept] at found
      exact Nat.lt_succ_of_lt (sound.numbered key seq found)
  inboxes key other found := by
    rw [relayed_spawnRelay sound.numbered] at found
    split at found
    · rename_i own
      simp only [Option.some.injEq, Prod.mk.injEq] at found
      obtain ⟨rfl, rfl⟩ := found
      exact own ▸ inbox rfl
    · exact sound.inboxes key other found

theorem sound_of_relays {env : Env} {server : Server} {s : SessionId} {e : Event} {c c' : Connection}
    (sound : Sound c) (relays : Relays env server s e c c') : Sound c' := by
  cases relays with
  | quieter less =>
      refine ⟨fun key seq found => ?_, fun key source found => ?_⟩
      · rw [less.spawned]
        exact sound.numbered key seq (less.names key seq found)
      · exact sound.inboxes key source (less.relays key _ found)
  | subscribed => exact sound_spawnRelay sound _ _ _ (fun automatic => by cases automatic)
  | accepted =>
      rename_i frame claims _ _
      have renamed : Sound (identified frame.tenantId claims.sub c) := ⟨sound.numbered, sound.inboxes⟩
      exact sound_spawnRelay renamed _ _ _ (fun _ => ⟨frame.tenantId, rfl⟩)

def AllSound (server : Server) : Prop := ∀ s c, server.connections s = some c → Sound c

theorem allSound_step {env : Env} (server : Server) (e : Event) (server' : Server)
    (sound : AllSound server) (taken : step env server e = some server') : AllSound server' := by
  intro s c' found
  rcases step_moved taken found with ⟨transport, _, _, rfl⟩ | ⟨c, there, moved⟩
  · exact sound_new transport
  · exact sound_of_relays (sound s c there) (relays_of_moved moved)

theorem isolated_step {env : Env} {server server' : Server} {e : Event} (sound : AllSound server)
    (isolated : Isolated server) (alone : LeavesNoStranger env server e)
    (taken : step env server e = some server') : Isolated server' := by
  intro s c' found key task relaying
  have entry := relayed_eq_some relaying
  rcases step_moved taken found with ⟨transport, _, _, rfl⟩ | ⟨c, there, moved⟩
  · cases entry
  have before : ∀ source automatic, relayed c key = some (source, automatic) →
      ∃ task, c.relayAt key = some task ∧ task.source = source ∧ task.automatic = automatic := by
    intro source automatic held
    obtain ⟨task, relaying, same⟩ := Option.map_eq_some_iff.mp held
    obtain ⟨rfl, rfl⟩ := Prod.mk.inj same
    exact ⟨task, relaying, rfl, rfl⟩
  cases relays_of_moved moved with
  | quieter less =>
      obtain ⟨older, held, source, automatic⟩ := before _ _ (less.relays key _ entry)
      obtain ⟨tenant, inbox⟩ := isolated s c there key older held
      rw [source] at tenant inbox
      rw [automatic] at inbox
      refine ⟨less.tenant.trans tenant, fun on => ?_⟩
      rw [less.identity]
      exact inbox on
  | subscribed named owned =>
      rw [relayed_spawnRelay (sound s c there).numbered] at entry
      split at entry
      · simp only [Option.some.injEq, Prod.mk.injEq] at entry
        obtain ⟨same, manual⟩ := entry
        rw [← same, ← manual]
        exact ⟨owned, fun on => by cases on⟩
      · obtain ⟨older, held, source, automatic⟩ := before _ _ entry
        rw [← source, ← automatic]
        exact isolated s c there key older held
  | accepted admitted accepted =>
      rename_i bytes now frame claims
      have numbered : Numbered (identified frame.tenantId claims.sub c) := (sound s c there).numbered
      rw [relayed_spawnRelay numbered] at entry
      split at entry
      · simp only [Option.some.injEq, Prod.mk.injEq] at entry
        rw [← entry.1]
        exact ⟨rfl, fun _ => ⟨frame.tenantId, claims.sub, rfl, rfl⟩⟩
      · rename_i other
        obtain ⟨older, held, source, automatic⟩ := before _ _ entry
        obtain ⟨tenant, manual⟩ := alone c frame claims admitted accepted key older held other
        rw [← source, ← automatic, manual]
        exact ⟨congrArg some tenant.symm, fun on => by cases on⟩

theorem alone_of_isolated {env : Env} {server server' : Server} {e : Event} (sound : AllSound server)
    (isolated : Isolated server') (taken : step env server e = some server') :
    LeavesNoStranger env server e := by
  cases e with
  | inbound s bytes now =>
      intro c frame claims admitted accepted key task relaying other
      have there := (waiting_eq_some admitted.ready).1
      have found := (admitted.authenticated accepted taken).2
      have entry : relayed (Connection.spawnRelay (unicastInboxChannel claims.sub)
          (.channel (inboxKey frame claims.sub)) true (identified frame.tenantId claims.sub c)) key =
          some (task.source, task.automatic) := by
        have numbered : Numbered (identified frame.tenantId claims.sub c) :=
          (sound s c there).numbered
        rw [relayed_spawnRelay numbered, if_neg other]
        exact relayed_eq_some relaying
      obtain ⟨task', relaying', same⟩ := Option.map_eq_some_iff.mp entry
      obtain ⟨source, automatic⟩ := Prod.mk.inj same
      obtain ⟨tenant, inbox⟩ := isolated s _ found key task' relaying'
      rw [source] at tenant inbox
      rw [automatic] at inbox
      refine ⟨(Option.some.inj tenant).symm, Bool.eq_false_iff.mpr fun on => other ?_⟩
      -- An inbox relay that is still rightful is the one the AUTH replaced.
      obtain ⟨tenantId, sub, identity, channel⟩ := inbox on
      have named := relayed_eq_some relaying
      rw [on] at named
      obtain ⟨tenantId', own⟩ := (sound s c there).inboxes key _ named
      rw [channel] at own
      obtain ⟨rfl, rfl⟩ := Prod.mk.inj (Option.some.inj identity)
      exact (congrArg ChannelKey.channelId (Source.channel.inj own)).symm
  | _ => trivial

/-- Every session is isolated in every state of a run exactly when no AUTH of the run is accepted over
a relay of another tenant or user. -/
theorem isolated_iff_no_stranger (env : Env) (config : RateLimitConfig) (timeout : Nat)
    (hasRedis hasWebPush : Bool) {es : List Event} {server : Server}
    (reached : (step env).run (start config timeout hasRedis hasWebPush) es = some server) :
    (step env).Meets (LeavesNoStranger env) (start config timeout hasRedis hasWebPush) es ↔
      (step env).Throughout Isolated (start config timeout hasRedis hasWebPush) es := by
  have opened : Isolated (start config timeout hasRedis hasWebPush) ∧
      AllSound (start config timeout hasRedis hasWebPush) := by
    constructor
    all_goals
      intro s c there
      cases there
  refine Step.meets_iff_throughout allSound_step (fun t e u sound isolated taken => ?_) reached
    opened.2 opened.1
  exact ⟨fun alone => isolated_step sound isolated alone taken,
    fun after => alone_of_isolated sound after taken⟩

section Sample
open SampleToken Sample

theorem isolated_signedIn :
    (step env).Throughout Isolated (started true) signInEvents := by
  refine (isolated_iff_no_stranger env {} 30000000000 true false (run_signedIn true)).mp ?_
  refine ⟨trivial, fun _ first => ⟨trivial, fun t second => ⟨?_, fun _ _ => trivial⟩⟩⟩
  intro c frame claims admitted _ key task relaying
  obtain rfl := Option.some.inj ((step_registered true).symm.trans first)
  obtain rfl := Option.some.inj ((step_connected rfl).symm.trans second)
  have opened : (connected sessionOne (registered true)).connections sessionOne =
      some (Connection.new .webSocket) := connections_setConnection_self _ _ _
  obtain rfl := Option.some.inj ((waiting_eq_some admitted.ready).1.symm.trans opened)
  cases relaying

theorem stranger_relayed :
    ¬ ∀ (env : Env) (config : RateLimitConfig) (timeout : Nat) (hasRedis hasWebPush : Bool)
      (es : List Event) (server : Server),
      (step env).run (start config timeout hasRedis hasWebPush) es = some server →
        Isolated server := by
  intro claim
  have taken := step_auth env (signedIn false) sessionOne aliceConnection epoch bob (by simp [SampleToken.all]) rfl
    (waiting_signedIn false) rfl (allowed_signedIn false) (by decide)
  have isolated := claim env {} 30000000000 false false _ _
    (Step.run_concat_iff.mpr ⟨_, run_signedIn false, taken⟩)
  have found : (authed sessionOne aliceConnection (bob.authFrame.frame bob.channel_fits
      (text_fits bob (by simp [SampleToken.all]))) bob.claims epoch (signedIn false)).connections sessionOne = _ :=
    connections_setConnection_self _ _ _
  obtain ⟨_, inbox⟩ := isolated sessionOne _ found (unicastInboxChannel "a")
    ⟨.channel ⟨tenantOne, unicastInboxChannel "a"⟩, true, 0, none, false⟩ rfl
  obtain ⟨tenantId, sub, identity, channel⟩ := inbox rfl
  obtain ⟨rfl, rfl⟩ := Prod.mk.inj (Option.some.inj identity)
  exact absurd (congrArg ChannelKey.channelId (Source.channel.inj channel)) (by decide)

end Sample

end RealtimePlatform.Proof.SessionIsolation
