import RealtimePlatform.Backend.ChannelKeys
import RealtimePlatform.Backend.Ledger
import RealtimePlatform.Backend.TenantPart
import RealtimePlatform.Proof.PresenceBalance

namespace RealtimePlatform.Proof.ChannelList
open Library Backend Backend.Server Backend.UseCases PresenceBalance

def Names (env : Env) (key : ChannelKey) (server : Server) (e : Event) : Prop :=
  Attaches env server e key ∨ PublishesOn env server e key

def Known (env : Env) (first : Server) (es : List Event) (key : ChannelKey) : Prop :=
  (step env).Happened (Names env key) first es

structure Taken (env : Env) (first : Server) (es ds : List Event) (e : Event) (t t' : Server) : Prop where
  within : ds ++ [e] <+: es
  reached : (step env).run first ds = some t
  taken : step env t e = some t'

/-- The same but for the order in which the channels are listed. -/
structure Unchanged (r r' : ChannelRouterService Message) : Prop where
  channels : ∀ key, AList.lookup key r'.channels = AList.lookup key r.channels
  wildcards : r'.wildcards = r.wildcards
  historyCapacity : r'.historyCapacity = r.historyCapacity
  historyPort : r'.historyPort = r.historyPort
  journal : r'.journal = r.journal

def IsReplay (e : Event) : Prop :=
  ∃ s bytes now frame, e = .inbound s bytes now ∧ Frame.parseSlice bytes = .ok frame ∧ frame.opcode = .replay

/-- No REPLAY changes the router, and only channels that were named are ever listed, or the presence
channels of such. -/
structure ListsNamed (env : Env) (first : Server) (es : List Event) : Prop where
  readOnly : ∀ ds e t t', Taken env first es ds e t t' → IsReplay e →
    Unchanged t.ctx.channelRouter t'.ctx.channelRouter
  named : ∀ ds t, ds <+: es → (step env).run first ds = some t →
    ∀ tenantId name count, (name, count) ∈ t.ctx.channelRouter.listChannels tenantId →
      Known env first ds ⟨tenantId, name⟩ ∨
        ∃ own, Known env first ds own ∧ own.presenceKey = ⟨tenantId, name⟩

/-- Every REPLAY that the ring buffer answers asks for a channel with an entry, and every UNSUB names a
channel that was named before, or whose presence channel was. -/
structure AsksForNamed (env : Env) (first : Server) (es : List Event) : Prop where
  replay : ∀ ds e t t', Taken env first es ds e t t' → ∀ key, Replays t e key → key ∈ t.ctx.channelRouter.channels
  unsub : ∀ ds e t t', Taken env first es ds e t t' → ∀ frame, Acts t e frame → frame.opcode = .unsub →
    isPattern frame.channelId = false →
      Known env first ds (namedKey frame) ∨ Known env first ds (namedKey frame).presenceKey

section
variable {env : Env} {server server' : Server} {e : Event} {s : SessionId} {bytes : List UInt8} {now : Clock}
  {c : Connection} {frame : Frame} {r r' : ChannelRouterService Message} {key : ChannelKey}

theorem Unchanged.refl (r : ChannelRouterService Message) : Unchanged r r := ⟨fun _ => rfl, rfl, rfl, rfl, rfl⟩

theorem unchanged_replay (redis : RedisStreams Message) (tenantId : TenantId) (since : Nat)
    (known : r.historyPort = none → key ∈ r.channels) :
    Unchanged r (r.replay redis tenantId key since).2 := by
  unfold ChannelRouterService.replay
  split
  · exact .refl r
  · split
    · exact .refl r
    · rename_i port
      refine ⟨fun k => ?_, rfl, rfl, rfl, rfl⟩
      obtain ⟨state, found⟩ := Option.isSome_iff_exists.mp (AList.lookup_isSome.mpr (known port))
      by_cases here : k = key
      · subst here
        rw [Table.lookup_upsert, found]
        rfl
      · rw [Table.lookup_upsert_ne _ _ _ here]

theorem executeInner_replay (codec : TokenCodec) (redis : RedisStreams Message) (rx : ReceiverId)
    (ctx : RealtimeContext) (opcode : frame.opcode = .replay) (exact : isPattern frame.channelId = false) :
    (executeInner codec redis s rx (some frame.tenantId) frame now ctx).2.2.channelRouter =
      (ctx.channelRouter.replay redis frame.tenantId (namedKey frame) (sinceSecs frame)).2 := by
  have own := ownTenant_self frame
  obtain ⟨frames, found⟩ := replay_own ctx.channelRouter redis (namedKey frame) (sinceSecs frame)
  simp only [namedKey] at found
  simp only [executeInner, opcode, replayHistory, own, exact, Bool.false_eq_true, if_false]
  rw [found]
  rfl

theorem acts_replay (acts : Acts server e frame) (opcode : frame.opcode = .replay)
    (exact : isPattern frame.channelId = false) (taken : step env server e = some server') :
    server'.ctx.channelRouter = (server.ctx.channelRouter.replay server.redis frame.tenantId (namedKey frame)
      (sinceSecs frame)).2 := by
  obtain ⟨s, bytes, now, c, rfl, admitted, owned⟩ := acts
  rw [channelRouter_of_executed admitted taken (by rw [opcode]; decide), owned,
    executeInner_replay _ _ _ _ opcode exact]
  rfl

theorem acts_unsub (acts : Acts server e frame) (opcode : frame.opcode = .unsub)
    (exact : isPattern frame.channelId = false) (taken : step env server e = some server') :
    (namedKey frame).presenceKey ∈ server'.ctx.channelRouter.channels := by
  obtain ⟨s, bytes, now, c, rfl, admitted, owned⟩ := acts
  rw [channelRouter_of_executed admitted taken (by rw [opcode]; decide), owned,
    executeInner_unsubExact _ _ _ _ _ _ _ opcode exact]
  exact (ChannelRouterService.mem_publish _ _).mpr (Or.inl rfl)

theorem Unchanged.mem_iff (unchanged : Unchanged r r') : key ∈ r'.channels ↔ key ∈ r.channels := by
  rw [← AList.lookup_isSome, ← AList.lookup_isSome, unchanged.channels key]

theorem unchanged_of_known (taken : step env server e = some server') (replays : IsReplay e)
    (known : ∀ key, Replays server e key → key ∈ server.ctx.channelRouter.channels) :
    Unchanged server.ctx.channelRouter server'.ctx.channelRouter := by
  obtain ⟨s, bytes, now, frame, rfl, parsed, opcode⟩ := replays
  cases step_cases taken with
  | unparsed => exact .refl _
  | limited => exact .refl _
  | handled handles =>
      rename_i c read command tenant ctx
      obtain rfl : frame = read := by
        rw [parseSlice_of_parseInbound handles.parsed] at parsed
        exact (Except.ok.inj parsed).symm
      by_cases acts : c.authenticatedTenant = some frame.tenantId ∧ isPattern frame.channelId = false
      · obtain ⟨owned, exact⟩ := acts
        have named := handles.acts owned
        rw [acts_replay named opcode exact taken]
        exact unchanged_replay _ _ _ fun port => known _ ⟨port, frame, named, opcode, exact, rfl⟩
      · show Unchanged _ (settled _ _ _ _ _ _).channelRouter
        cases handles.dispatched with
        | idle => exact .refl _
        | replayed frames router _ owned exact => exact absurd ⟨owned, exact⟩ acts
        | rejected _ other => rw [opcode] at other; cases other
        | accepted _ other => rw [opcode] at other; cases other
        | beat other => rw [opcode] at other; cases other
        | pattern other => rw [opcode] at other; cases other
        | exact other => rw [opcode] at other; cases other
        | unsubPattern other => rw [opcode] at other; cases other
        | unsubExact other => rw [opcode] at other; cases other
        | published key other => simp [publishKey, opcode] at other

theorem known_of_unchanged (taken : step env server e = some server') (replays : Replays server e key)
    (unchanged : IsReplay e → Unchanged server.ctx.channelRouter server'.ctx.channelRouter) :
    key ∈ server.ctx.channelRouter.channels := by
  obtain ⟨port, frame, acts, opcode, exact, rfl⟩ := replays
  have isReplay : IsReplay e := by
    obtain ⟨s, bytes, now, c, rfl, admitted, _⟩ := acts
    exact ⟨s, bytes, now, frame, rfl, parseSlice_of_parseInbound admitted.parsed, opcode⟩
  rw [← (unchanged isReplay).mem_iff, acts_replay acts opcode exact taken]
  exact ChannelRouterService.mem_replay server.redis (sinceSecs frame) port

variable {first : Server} {es ds : List Event}

theorem Known.mono (known : Known env first ds key) (longer : ds <+: es) : Known env first es key :=
  Step.Happened.mono known longer fun _ _ => id

theorem not_names_unsub (acts : Acts server e frame) (opcode : frame.opcode = .unsub) : ¬ Names env key server e := by
  obtain ⟨s, bytes, now, c, rfl, admitted, _⟩ := acts
  rintro ((⟨other, acts, subscribed, _⟩ | ⟨q, bytes', now', c', other, claims, same, admitted', accepted, _⟩) |
    ⟨other, acts, published⟩ | ⟨request, now', same, _⟩ | ⟨payload, now', other, same, _⟩)
  · obtain rfl := frame_of_acts admitted acts
    rw [opcode] at subscribed
    cases subscribed
  · cases same
    obtain ⟨rfl, rfl⟩ := admitted.unique admitted'
    have auth := (acceptedClaims_eq_some.mp accepted).1
    rw [opcode] at auth
    cases auth
  · obtain rfl := frame_of_acts admitted acts
    simp [publishKey, opcode] at published
  · cases same
  · cases same

theorem known_of_names (reached : (step env).run first ds = some server) (names : Names env key server e) :
    Known env first (ds ++ [e]) key :=
  Step.happened_concat reached names

structure Grounded (env : Env) (first : Server) (ds : List Event) (t : Server) : Prop where
  registered : Registered t.ctx.presence t.users
  listed : ∀ key, Listed t.ctx.presence key → Known env first ds key
  keys : ∀ key ∈ t.ctx.channelRouter.channels, Known env first ds key ∨
    ∃ own, Known env first ds own ∧ own.presenceKey = key

theorem grounded_start (config : RateLimitConfig) (timeout : Nat) (hasRedis hasWebPush : Bool) :
    Grounded env (start config timeout hasRedis hasWebPush) [] (start config timeout hasRedis hasWebPush) where
  registered := registered_start config timeout hasRedis hasWebPush
  listed := by
    rintro key ⟨s, entry, found, _⟩
    cases found
  keys := by
    intro key member
    cases hasRedis <;> exact absurd member (AList.notMem_empty key)

theorem Grounded.next (grounded : Grounded env first ds server) (reached : (step env).run first ds = some server)
    (taken : step env server e = some server')
    (replay : ∀ key, Replays server e key → key ∈ server.ctx.channelRouter.channels)
    (unsub : ∀ frame, Acts server e frame → frame.opcode = .unsub → isPattern frame.channelId = false →
      Known env first ds (namedKey frame) ∨ Known env first ds (namedKey frame).presenceKey) :
    Grounded env first (ds ++ [e]) server' := by
  have longer : ds <+: ds ++ [e] := List.prefix_append ds [e]
  have kept : ∀ key ∈ server.ctx.channelRouter.channels, Known env first (ds ++ [e]) key ∨
      ∃ own, Known env first (ds ++ [e]) own ∧ own.presenceKey = key := by
    intro key member
    rcases grounded.keys key member with known | ⟨own, known, same⟩
    · exact Or.inl (known.mono longer)
    · exact Or.inr ⟨own, known.mono longer, same⟩
  refine ⟨registered_step server e server' grounded.registered taken, fun key listed => ?_, fun key member => ?_⟩
  · rcases listed_step grounded.registered taken listed with before | ⟨frame, acts, opcode, exact, rfl⟩
    · exact (grounded.listed key before).mono longer
    · exact known_of_names reached (Or.inl (Or.inl ⟨frame, acts, opcode, exact, rfl⟩))
  · rcases (step_touches taken).adds member with there | attached | published | replayed
    · exact kept key there
    · exact Or.inl (known_of_names reached (Or.inl attached))
    · rcases published with named | ⟨own, rfl, ⟨frame, acts, opcode, exact, rfl⟩ | listed⟩
      · exact Or.inl (known_of_names reached (Or.inr named))
      · rcases opcode with subscribed | left
        · exact Or.inr ⟨_, known_of_names reached (Or.inl (Or.inl ⟨frame, acts, subscribed, exact, rfl⟩)), rfl⟩
        · rcases unsub frame acts left exact with known | known
          · exact Or.inr ⟨_, known.mono longer, rfl⟩
          · exact Or.inl (known.mono longer)
      · exact Or.inr ⟨own, (grounded.listed own listed).mono longer, rfl⟩
    · exact kept key (replay key replayed)

end

/-- In a run every REPLAY is read-only and every listed channel was named exactly when each REPLAY that the
ring buffer answers asks for a channel with an entry and each UNSUB is one of a channel that was named. -/
theorem lists_named_iff (env : Env) (config : RateLimitConfig) (timeout : Nat) (hasRedis hasWebPush : Bool)
    (es : List Event) : ListsNamed env (start config timeout hasRedis hasWebPush) es ↔
      AsksForNamed env (start config timeout hasRedis hasWebPush) es := by
  constructor
  · intro lists
    refine ⟨fun ds e t t' step key replays => ?_, fun ds e t t' step frame acts opcode exact => ?_⟩
    · exact known_of_unchanged step.taken replays (lists.readOnly ds e t t' step)
    · have reached := Step.run_concat_iff.mpr ⟨t, step.reached, step.taken⟩
      have earlier : ∀ key, Known env _ (ds ++ [e]) key → Known env _ ds key := fun key known =>
        ((Step.happened_concat_iff step.reached).mp known).resolve_right (not_names_unsub acts opcode)
      obtain ⟨count, listed⟩ := ChannelRouterService.exists_listed (acts_unsub acts opcode exact step.taken)
      rcases lists.named _ _ step.within reached _ _ _ listed with known | ⟨own, known, same⟩
      · exact Or.inr (earlier _ known)
      · obtain rfl : own = namedKey frame := presenceKey_injective same
        exact Or.inl (earlier _ known)
  · intro asks
    refine ⟨fun ds e t t' step replays => ?_, fun ds t short reached tenantId name count listed => ?_⟩
    · exact unchanged_of_known step.taken replays (asks.replay ds e t t' step)
    · let first := start config timeout hasRedis hasWebPush
      have grounded : ds <+: es → Grounded env first ds t := by
        refine Step.run_induction (fun ds t => ds <+: es → Grounded env first ds t)
          (fun _ => grounded_start config timeout hasRedis hasWebPush) ?_ reached
        intro ds t e t' reached grounded taken within
        have here : Taken env first es ds e t t' := ⟨within, reached, taken⟩
        exact (grounded ((List.prefix_append ds [e]).trans within)).next reached taken (asks.replay ds e t t' here)
          (asks.unsub ds e t t' here)
      exact (grounded short).keys _ (ChannelRouterService.mem_listChannels listed)

open SampleToken Sample

def askRoom : FrameBuilder := { opcode := .replay, tenantId := tenantOne, channelId := "room" }

def askParsed : Frame := askRoom.frame (by decide) (by decide)

def asksRoom : Event := .inbound sessionOne askRoom.build.toList epoch

theorem replays_asksRoom : Replays (signedIn false) asksRoom (namedKey askParsed) := by
  have admitted : Admitted (signedIn false) sessionOne askRoom.build.toList epoch aliceConnection askParsed :=
    ⟨waiting_signedIn false, parseInbound_built .webSocket (by decide) (by decide), allowed_signedIn false⟩
  exact ⟨rfl, askParsed, ⟨sessionOne, _, epoch, aliceConnection, rfl, admitted, rfl⟩, rfl, by decide, rfl⟩

theorem not_mem_signedIn : namedKey askParsed ∉ (signedIn false).ctx.channelRouter.channels := by
  intro member
  change namedKey askParsed ∈ ((connected sessionOne (registered false)).ctx.channelRouter.attach
    (inboxKey aliceParsed "a") ⟨sessionOne, 0⟩).channels at member
  rcases (ChannelRouterService.mem_attach ⟨sessionOne, 0⟩).mp member with inbox | there
  · exact absurd inbox (by decide)
  · exact absurd there (AList.notMem_empty _)

theorem not_lists_named : ¬ ∀ (env : Env) (config : RateLimitConfig) (timeout : Nat) (hasRedis hasWebPush : Bool)
    (es : List Event), ListsNamed env (start config timeout hasRedis hasWebPush) es := by
  intro claim
  have ready : (signedIn false).waiting sessionOne = some aliceConnection := waiting_signedIn false
  have taken := step_inbound_built env askRoom epoch (by decide) (by decide) ready
  have lists := claim env {} 30000000000 false false (signInEvents ++ [asksRoom])
  refine not_mem_signedIn (known_of_unchanged taken replays_asksRoom ?_)
  exact lists.readOnly signInEvents asksRoom _ _ ⟨List.prefix_rfl, run_signedIn false, taken⟩

end RealtimePlatform.Proof.ChannelList
