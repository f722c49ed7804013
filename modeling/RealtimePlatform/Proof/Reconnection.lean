import RealtimePlatform.Backend.LiveRelays
import RealtimePlatform.Proof.ChunkAdmission
import RealtimePlatform.Proof.Handling
import RealtimePlatform.Sdk.Session

namespace RealtimePlatform.Proof.Reconnection
open Library Utf16 Backend Backend.Server Backend.UseCases Backend.Connection Sdk
open ChunkAdmission (Affords affords_cons affords_new lastRefill_tryConsume seconds)

def Survives (name : Utf16) : Prop :=
  WellFormed name ∧ utf8ByteLength name ≤ lenChannel ∧ trimEndNul (toUsv name) = toUsv name

theorem ofString_subscribedName {name : Utf16} (survives : Survives name) :
    ofString (subscribedName name) = name := by
  obtain ⟨text, fits, plain⟩ := survives
  rw [subscribedName, cut_of_fits fits, plain]
  exact text

theorem survives_subscribedName (name : Utf16) : Survives (ofString (subscribedName name)) := by
  obtain ⟨n, padded⟩ := exists_padding (cut lenChannel name)
  have fits := length_utf8_cut_le lenChannel name
  rw [padded, utf8_append, List.length_append] at fits
  refine ⟨wellFormed_ofString _, ?_, ?_⟩
  · rw [utf8ByteLength, toUsv_ofString]
    exact Nat.le_trans (Nat.le_add_right _ _) fits
  · rw [toUsv_ofString, subscribedName, trimEndNul, trimEndNul, String.toList_ofList, List.rdropWhile_idempotent]

section
variable {η : Type*} (client : RealtimeClient η)

def subBytes (key : Utf16) : List UInt8 := encodeFrame (client.frame .subscribe key [])

theorem parseInbound_encodeFrame (transport : Transport) (fields : FrameFields) :
    parseInbound transport (encodeFrame fields) = some (.ok fields.frame) := by
  rw [encodeFrame_eq]
  exact parseInbound_built transport _ _

variable {client} {env : Env} {first server server' : Server} {s : SessionId} {c c' : Connection} {key : Utf16}
  {now : Clock}

theorem relayed_sub (wired : Wired c) (taken : step env server (.inbound s (subBytes client key) now) = some server')
    (there : server.connections s = some c) : ∃ c', server'.connections s = some c' ∧
      c'.authenticatedTenant = c.authenticatedTenant ∧
      ∀ name, (relayed c' name).isSome = true ↔ (relayed c name).isSome = true ∨ name = subscribedName key ∧
        c.authenticatedTenant = some client.tenantId ∧
        (server.ctx.rateLimiter.check s client.tenantId now.instant).1 = true := by
  have spawned := relayed_subscribe wired taken there (parseInbound_encodeFrame c.transport _) rfl
  exact spawned

def framesOf (s : SessionId) (es : List Event) : List (List UInt8 × Clock) := es.filterMap (arrivalOf s)

def Brings (client : RealtimeClient η) (s : SessionId) (keys : List Utf16) (es : List Event) : Prop :=
  (framesOf s es).map (·.1) = keys.map (subBytes client)

variable {keys : List Utf16} {e : Event} {es : List Event}

theorem framesOf_concat (s : SessionId) (es : List Event) (e : Event) :
    framesOf s (es ++ [e]) = framesOf s es ++ (arrivalOf s e).toList := by
  rw [framesOf, framesOf, List.filterMap_append]
  cases arrives : arrivalOf s e <;> simp [arrives]

theorem brings_concat (brings : Brings client s keys (es ++ [e])) :
    (arrivalOf s e = none ∧ Brings client s keys es) ∨
      ∃ now before key, e = .inbound s (subBytes client key) now ∧ keys = before ++ [key] ∧
        Brings client s before es := by
  unfold Brings at brings
  rw [framesOf_concat] at brings
  cases arrives : arrivalOf s e with
  | none =>
      rw [arrives, Option.toList_none, List.append_nil] at brings
      exact Or.inl ⟨rfl, brings⟩
  | some frame =>
      obtain ⟨bytes, now⟩ := frame
      rw [arrives, Option.toList_some, List.map_append] at brings
      obtain ⟨before, last, rfl, same, single⟩ := List.map_eq_append_iff.mp brings.symm
      obtain ⟨key, rfl, read⟩ := List.map_eq_singleton_iff.mp single
      refine Or.inr ⟨now, before, key, ?_, rfl, same.symm⟩
      rw [arrivalOf_eq_some.mp arrives, read]

theorem before_last {u t : Server} (start : first.connections s = some c) (before : (step env).run first es = some u)
    (taken : step env u e = some t) (there : t.connections s = some c') (isOpen : c'.isOpen = true) :
    ∃ d, u.connections s = some d ∧ d.isOpen = true ∧ Moved env u s e d c' := by
  have lives : ∃ d, u.connections s = some d := by
    refine Step.run_invariant (I := fun v => ∃ d, v.connections s = some d) ?_ before ⟨c, start⟩
    rintro v d w ⟨b, found⟩ went
    exact connections_kept went found
  obtain ⟨d, found⟩ := lives
  have moved := moved_of_found taken found there
  exact ⟨d, found, isOpen_of_moved moved isOpen, moved⟩

theorem bounded_run (start : first.connections s = some c) (wired : Wired c)
    (reached : (step env).run first es = some server) (brings : Brings client s keys es)
    (there : server.connections s = some c') (isOpen : c'.isOpen = true) :
    Wired c' ∧ c'.authenticatedTenant = c.authenticatedTenant ∧
      ∀ name, (relayed c' name).isSome = true → (relayed c name).isSome = true ∨
        c.authenticatedTenant = some client.tenantId ∧ name ∈ keys.map subscribedName := by
  induction es using List.reverseRecOn generalizing server keys c' with
  | nil =>
      rw [Step.run_nil, Option.some.injEq] at reached
      subst reached
      obtain rfl := Option.some.inj (start.symm.trans there)
      exact ⟨wired, rfl, fun _ => Or.inl⟩
  | append_singleton es e ih =>
      obtain ⟨u, before, taken⟩ := Step.run_concat_iff.mp reached
      obtain ⟨d, found, alive, moved⟩ := before_last start before taken there isOpen
      rcases brings_concat brings with ⟨quiet, rest⟩ | ⟨now, earlier, key, rfl, rfl, rest⟩
      · obtain ⟨wired', tenant, bounded⟩ := ih before rest found alive
        obtain ⟨same, relays⟩ := relayed_idles (idles_step wired' taken found there isOpen quiet) found
        refine ⟨wired_of_moved wired' moved, same.trans tenant, fun name live => ?_⟩
        exact bounded name ((relays name).mp live).1
      · obtain ⟨wired', tenant, bounded⟩ := ih before rest found alive
        obtain ⟨d', there', same, relays⟩ := relayed_sub wired' taken found
        obtain rfl := Option.some.inj (there.symm.trans there')
        refine ⟨wired_of_moved wired' moved, same.trans tenant, fun name live => ?_⟩
        rw [List.map_append, List.mem_append]
        rcases (relays name).mp live with older | ⟨rfl, owned, _⟩
        · exact (bounded name older).imp_right fun both => ⟨both.1, Or.inl both.2⟩
        · exact Or.inr ⟨tenant ▸ owned, Or.inr (List.mem_singleton_self _)⟩

def Passes (tenantId : TenantId) (s : SessionId) (server : Server) (e : Event) : Prop :=
  ∀ bytes now, e = .inbound s bytes now → (server.ctx.rateLimiter.check s tenantId now.instant).1 = true

/-- The event ends no relay of the session but that of its inbox. -/
def Lasts (s : SessionId) (inbox : String) (server : Server) (e : Event) : Prop :=
  ∀ name, name ≠ inbox → ¬ EndsRelay s name server e

theorem live_run {inbox : String} (start : first.connections s = some c) (wired : Wired c)
    (owned : c.authenticatedTenant = some client.tenantId)
    (only : ∀ name, (relayed c name).isSome = true → name = inbox)
    (reached : (step env).run first es = some server) (brings : Brings client s keys es)
    (there : server.connections s = some c') (isOpen : c'.isOpen = true)
    (distinct : (keys.map subscribedName).Nodup) (apart : inbox ∉ keys.map subscribedName) :
    (∀ key ∈ keys, (relayed c' (subscribedName key)).isSome = true) ↔
      (step env).Meets (fun t e => Passes client.tenantId s t e ∧ Lasts s inbox t e) first es := by
  induction es using List.reverseRecOn generalizing server keys c' with
  | nil =>
      have none : keys = [] := by
        cases keys with
        | nil => rfl
        | cons key keys => cases brings
      subst none
      exact iff_of_true (List.forall_mem_nil _) trivial
  | append_singleton es e ih =>
      obtain ⟨u, before, taken⟩ := Step.run_concat_iff.mp reached
      obtain ⟨d, found, alive, moved⟩ := before_last start before taken there isOpen
      rw [Step.meets_concat before]
      rcases brings_concat brings with ⟨quiet, rest⟩ | ⟨now, earlier, key, rfl, rfl, rest⟩
      · obtain ⟨wired', tenant, bounded⟩ := bounded_run start wired before rest found alive
        obtain ⟨-, relays⟩ := relayed_idles (idles_step wired' taken found there isOpen quiet) found
        rw [← ih before rest found alive distinct apart]
        have passes : Passes client.tenantId s u e := by
          rintro bytes now rfl
          rw [arrivalOf_inbound] at quiet
          cases quiet
        constructor
        · intro all
          have held : ∀ key ∈ keys, (relayed d (subscribedName key)).isSome = true :=
            fun key member => ((relays _).mp (all key member)).1
          refine ⟨held, passes, fun name other ends => ?_⟩
          have live := relayed_of_endsRelay ends found
          rcases bounded name live with older | ⟨-, member⟩
          · exact other (only name older)
          · obtain ⟨key, inside, rfl⟩ := List.mem_map.mp member
            exact ((relays _).mp (all key inside)).2 ends
        · rintro ⟨held, -, lasts⟩ key member
          refine (relays _).mpr ⟨held key member, lasts _ ?_⟩
          rintro rfl
          exact apart (List.mem_map_of_mem member)
      · obtain ⟨wired', tenant, bounded⟩ := bounded_run start wired before rest found alive
        obtain ⟨d', there', -, relays⟩ := relayed_sub wired' taken found
        obtain rfl := Option.some.inj (there.symm.trans there')
        rw [List.map_append, List.nodup_append] at distinct
        rw [List.map_append, List.mem_append, not_or] at apart
        have fresh : (relayed d (subscribedName key)).isSome ≠ true := by
          intro live
          rcases bounded _ live with older | ⟨-, member⟩
          · exact apart.2 (only _ older ▸ List.mem_singleton_self _)
          · exact distinct.2.2 _ member _ (List.mem_singleton_self _) rfl
        rw [← ih before rest found alive distinct.1 apart.1, List.forall_mem_append, List.forall_mem_singleton]
        have lasts : Lasts s inbox u (.inbound s (subBytes client key) now) := by
          rintro name - ⟨_, _, _, _, _, _, ⟨⟩, _⟩
        constructor
        · rintro ⟨others, last⟩
          refine ⟨fun k member => ?_, ?_, lasts⟩
          · rcases (relays _).mp (others k member) with older | ⟨same, -⟩
            · exact older
            · exact absurd same (distinct.2.2 _ (List.mem_map_of_mem member) _ (List.mem_singleton_self _))
          · rintro bytes now' ⟨⟩
            rcases (relays _).mp last with older | ⟨-, -, allowed⟩
            · exact absurd older fresh
            · exact allowed
        · rintro ⟨others, passes, -⟩
          refine ⟨fun k member => (relays _).mpr (Or.inl (others k member)), (relays _).mpr (Or.inr ?_)⟩
          exact ⟨rfl, tenant.trans owned, passes _ _ rfl⟩

def SessionPasses (tenantId : TenantId) (s : SessionId) (server : Server) (e : Event) : Prop :=
  ∀ bytes now, e = .inbound s bytes now → (server.ctx.rateLimiter.sessionTry s tenantId now.instant).1 = true

def TenantPasses (tenantId : TenantId) (s : SessionId) (server : Server) (e : Event) : Prop :=
  ∀ bytes now, e = .inbound s bytes now → (server.ctx.rateLimiter.tenantTry tenantId now.instant).1 = true

theorem passes_iff (tenantId : TenantId) (s : SessionId) (server : Server) (e : Event) :
    Passes tenantId s server e ↔ SessionPasses tenantId s server e ∧ TenantPasses tenantId s server e := by
  simp only [Passes, SessionPasses, TenantPasses, RateLimitService.check, Bool.and_eq_true, ← forall_and]

def drawn (bucket : TokenBucket) (times : List Nat) : TokenBucket :=
  times.foldl (fun b now => (b.tryConsume now).2) bucket

theorem affords_concat {bucket : TokenBucket} {times : List Nat} {late : Nat}
    (ordered : (bucket.lastRefill :: (times ++ [late])).Pairwise (· ≤ ·)) :
    Affords bucket (times ++ [late]) ↔ Affords bucket times ∧ ((drawn bucket times).tryConsume late).1 = true := by
  induction times generalizing bucket with
  | nil =>
      have le : bucket.lastRefill ≤ late := (List.pairwise_cons.mp ordered).1 late (List.mem_singleton_self late)
      have none : ∀ b, Affords b [] := fun b => by simp [Affords, Covered, Paced]
      rw [List.nil_append, affords_cons le, and_iff_left (none _), and_iff_right (none _)]
      rfl
  | cons time times ih =>
      rw [List.cons_append] at ordered ⊢
      obtain ⟨first, rest⟩ := List.pairwise_cons.mp ordered
      have le : bucket.lastRefill ≤ time := first time List.mem_cons_self
      have later : ((bucket.tryConsume time).2.lastRefill :: (times ++ [late])).Pairwise (· ≤ ·) := by
        rw [lastRefill_tryConsume]
        exact rest
      rw [affords_cons le, affords_cons le, ih later, and_assoc]
      rfl

def timesOf (s : SessionId) (es : List Event) : List Nat := (framesOf s es).map (·.2.instant)

theorem timesOf_concat_quiet (quiet : arrivalOf s e = none) : timesOf s (es ++ [e]) = timesOf s es := by
  rw [timesOf, framesOf_concat, quiet, Option.toList_none, List.append_nil]
  rfl

theorem timesOf_concat_inbound (s : SessionId) (es : List Event) (bytes : List UInt8) (now : Clock) :
    timesOf s (es ++ [.inbound s bytes now]) = timesOf s es ++ [now.instant] := by
  rw [timesOf, framesOf_concat, arrivalOf_inbound, Option.toList_some, List.map_append]
  rfl

theorem perSession_sub (taken : step env server (.inbound s (subBytes client key) now) = some server') :
    server'.ctx.rateLimiter.perSession s =
      some (server.ctx.rateLimiter.sessionTry s client.tenantId now.instant).2 := by
  have parsed : Frame.parseSlice (subBytes client key) = .ok (client.frame .subscribe key []).frame :=
    Option.some.inj (parseInbound_encodeFrame .webSocket _)
  have charged := perSession_inbound taken parsed (Ledger.rejects_of_ne (by rintro ⟨⟩))
  exact charged

theorem session_run {bucket : TokenBucket} (start : first.connections s = some c)
    (held : first.ctx.rateLimiter.perSession s = some bucket)
    (reached : (step env).run first es = some server) (brings : Brings client s keys es)
    (there : server.connections s = some c') (isOpen : c'.isOpen = true)
    (ordered : (bucket.lastRefill :: timesOf s es).Pairwise (· ≤ ·)) :
    server.ctx.rateLimiter.perSession s = some (drawn bucket (timesOf s es)) ∧
      ((step env).Meets (SessionPasses client.tenantId s) first es ↔ Affords bucket (timesOf s es)) := by
  induction es using List.reverseRecOn generalizing server keys c' with
  | nil =>
      rw [Step.run_nil, Option.some.injEq] at reached
      subst reached
      have none : Affords bucket [] := by simp [Affords, Covered, Paced]
      exact ⟨held, iff_of_true trivial none⟩
  | append_singleton es e ih =>
      obtain ⟨u, before, taken⟩ := Step.run_concat_iff.mp reached
      obtain ⟨d, found, alive, moved⟩ := before_last start before taken there isOpen
      rw [Step.meets_concat before]
      rcases brings_concat brings with ⟨quiet, rest⟩ | ⟨now, earlier, key, rfl, rfl, rest⟩
      · rw [timesOf_concat_quiet quiet] at ordered ⊢
        obtain ⟨bucketed, same⟩ := ih before rest found alive ordered
        have passes : SessionPasses client.tenantId s u e := by
          rintro bytes now rfl
          rw [arrivalOf_inbound] at quiet
          cases quiet
        refine ⟨?_, by rw [same, and_iff_left passes]⟩
        rcases perSession_step taken quiet with kept | ⟨-, shut⟩
        · exact kept.trans bucketed
        · rw [closed_of_found there, isOpen] at shut
          cases shut
      · rw [timesOf_concat_inbound] at ordered ⊢
        have shorter : (bucket.lastRefill :: timesOf s es).Pairwise (· ≤ ·) :=
          ordered.sublist (List.Sublist.cons_cons _ (List.sublist_append_left _ _))
        obtain ⟨bucketed, same⟩ := ih before rest found alive shorter
        have tried : u.ctx.rateLimiter.sessionTry s client.tenantId now.instant =
            (drawn bucket (timesOf s es)).tryConsume now.instant := by
          rw [RateLimitService.sessionTry, bucketed]
          rfl
        refine ⟨?_, ?_⟩
        · rw [perSession_sub taken, tried, drawn, drawn, List.foldl_concat]
        · rw [same, affords_concat ordered, ← tried]
          refine and_congr_right fun _ => ⟨fun passes => passes _ _ rfl, fun allowed bytes now' same' => ?_⟩
          cases same'
          exact allowed

theorem perSession_unseen {config : RateLimitConfig} {timeout : Nat} {hasRedis hasWebPush : Bool}
    (begun : (step env).run (start config timeout hasRedis hasWebPush) es = some server)
    (silent : ∀ e ∈ es, arrivalOf s e = none) : server.ctx.rateLimiter.perSession s = none := by
  have quiet : (step env).Meets (fun _ e => arrivalOf s e = none) (start config timeout hasRedis hasWebPush) es :=
    Step.meets_of_forall (fun e member _ => silent e member) _
  have keep : ∀ t e u, t.ctx.rateLimiter.perSession s = none → arrivalOf s e = none → step env t e = some u →
      u.ctx.rateLimiter.perSession s = none := by
    intro t e u held quiet taken
    rcases perSession_step taken quiet with kept | ⟨dropped, -⟩
    · exact kept.trans held
    · exact dropped
  exact Step.run_invariant_of_meets keep begun rfl quiet

end

/-- A session has been opened for a client with a good token, and the server has handled what `onopen` sends ahead of
the queued calls, whatever else has happened meanwhile. -/
structure Reopened (η : Type*) where
  env : Env
  config : RateLimitConfig
  timeout : Nat
  hasRedis : Bool
  hasWebPush : Bool
  client : RealtimeClient η
  token : Utf16
  claims : Claims
  s : SessionId
  before : List Event
  first : Server
  now : Clock
  es : List Event
  server : Server
  c : Connection
  begun : (step env).run (start config timeout hasRedis hasWebPush) before = some first
  silent : ∀ e ∈ before, arrivalOf s e = none
  opened : first.connections s = some (Connection.new .webSocket)
  defaults : first.ctx.rateLimiter.configFor client.tenantId = {}
  valid : first.ctx.auth.validate env.codec now.unixSecs client.tenantId
    (client.frame .auth [] token).frame.payload = .ok claims
  reached : (step env).run first (.inbound s (encodeFrame (client.frame .auth [] token)) now :: es) = some server
  sent : (framesOf s es).map (·.1) = client.resubscribeAll.map encodeFrame
  ordered : (now.instant :: timesOf s es).Pairwise (· ≤ ·)
  there : server.connections s = some c
  isOpen : c.isOpen = true

namespace Reopened
variable {η : Type*} (x : Reopened η)

def keys : List Utf16 := x.client.subscriptions.keys

def inbox : String := unicastInboxChannel x.claims.sub

/-- The AUTH comes in. -/
def auth : Event := .inbound x.s (encodeFrame (x.client.frame .auth [] x.token)) x.now

theorem brings : Brings x.client x.s x.keys x.es := by
  rw [Brings, x.sent, RealtimeClient.resubscribeAll, List.map_map]
  rfl

def allowed : Bool := (x.first.ctx.rateLimiter.check x.s x.client.tenantId x.now.instant).1

structure Started (t : Server) (c : Connection) : Prop where
  taken : step x.env x.first x.auth = some t
  rest : (step x.env).run t x.es = some x.server
  there : t.connections x.s = some c
  wired : Wired c
  only : ∀ name, (relayed c name).isSome = true → name = x.inbox
  tenant : c.authenticatedTenant = if x.allowed then some x.client.tenantId else none
  bucket : t.ctx.rateLimiter.perSession x.s =
    some ((TokenBucket.new 20 10 x.now.instant).tryConsume x.now.instant).2

theorem tryConsume_new (now : Nat) : ((TokenBucket.new 20 10 now).tryConsume now).1 = true := by
  simp [TokenBucket.new, TokenBucket.tryConsume]

theorem sessionTry_first : x.first.ctx.rateLimiter.sessionTry x.s x.client.tenantId x.now.instant =
    (TokenBucket.new 20 10 x.now.instant).tryConsume x.now.instant := by
  rw [RateLimitService.sessionTry, perSession_unseen x.begun x.silent, x.defaults]
  rfl

theorem allowed_eq : x.allowed =
    (x.first.ctx.rateLimiter.tenantTry x.client.tenantId x.now.instant).1 := by
  show (_ && _) = _
  rw [x.sessionTry_first, tryConsume_new, Bool.true_and]

theorem exists_started : ∃ t c, x.Started t c := by
  obtain ⟨t, taken, rest⟩ := Step.run_cons_iff.mp x.reached
  have parsed := parseInbound_encodeFrame .webSocket (x.client.frame .auth [] x.token)
  have accepted : acceptedClaims x.env (x.client.frame .auth [] x.token).frame x.now x.first.ctx = some x.claims :=
    acceptedClaims_eq_some.mpr ⟨rfl, x.valid⟩
  have keeps : Ledger.rejects x.env x.first.ctx.auth (x.client.frame .auth [] x.token).frame x.now = false := by
    rw [Ledger.rejects, decide_eq_false_iff_not, not_and]
    intro _ failed
    have valid : x.first.ctx.auth.validate x.env.codec x.now.unixSecs
      (x.client.frame .auth [] x.token).frame.tenantId (x.client.frame .auth [] x.token).frame.payload =
        .ok x.claims := x.valid
    rw [valid] at failed
    cases failed
  have bucket := perSession_inbound taken (Option.some.inj parsed) keeps
  have tried : (x.first.ctx.rateLimiter.sessionTry x.s (x.client.frame .auth [] x.token).frame.tenantId
      x.now.instant) = (TokenBucket.new 20 10 x.now.instant).tryConsume x.now.instant := x.sessionTry_first
  rw [tried] at bucket
  obtain ⟨d, ready, outcome⟩ := inbound_cases taken
  obtain rfl := Option.some.inj (x.opened.symm.trans (waiting_eq_some ready).1)
  cases passes : x.allowed with
  | false =>
      have same : t.connections = x.first.connections := by
        rcases outcome with ⟨_, failed, _⟩ | ⟨frame, read, ⟨_, rfl⟩ | ⟨_, _, _, handles, _⟩⟩
        · rw [show (Connection.new .webSocket).transport = .webSocket from rfl, parsed] at failed
          cases failed
        · rfl
        · have own : (x.client.frame .auth [] x.token).frame = frame :=
            Except.ok.inj (Option.some.inj (parsed.symm.trans read))
          have let_in : x.allowed = true := by
            have admitted := handles.allowed
            rw [← own] at admitted
            exact admitted
          rw [passes] at let_in
          cases let_in
      refine ⟨t, Connection.new .webSocket, taken, rest, ?_, wired_new _, ?_, ?_, bucket⟩
      · rw [same]
        exact x.opened
      · intro name live
        cases live
      · rw [passes]
        rfl
  | true =>
      have admitted : Admitted x.first x.s (encodeFrame (x.client.frame .auth [] x.token)) x.now
        (Connection.new .webSocket) (x.client.frame .auth [] x.token).frame := ⟨ready, parsed, passes⟩
      obtain ⟨-, there⟩ := admitted.authenticated accepted taken
      have wired : Wired (identified x.client.tenantId x.claims.sub (Connection.new .webSocket)) :=
        (wired_new .webSocket).of_eq rfl rfl rfl rfl
      refine ⟨t, _, taken, rest, there, wired_spawnRelay wired _ _ _, fun name live => ?_, ?_, bucket⟩
      · by_contra other
        have spawned := relayed_spawnRelay wired.numbered x.inbox
          (.channel (inboxKey (x.client.frame .auth [] x.token).frame x.claims.sub)) true name
        rw [if_neg other] at spawned
        have none : (relayed (identified x.client.tenantId x.claims.sub (Connection.new .webSocket)) name).isSome =
          true := by
            rw [← spawned]
            exact live
        cases none
      · rw [passes]
        rfl

/-- The relays of the session are those of the client, its inbox aside. -/
def Restored : Prop :=
  ∀ key, key ∈ x.keys ↔ ∃ name, name ≠ x.inbox ∧ (relayed x.c name).isSome = true ∧ ofString name = key

/-- Nothing keeps a SUB from being handled or its relay from running, and its name comes back as it was given. -/
structure Unhindered : Prop where
  names : ∀ key ∈ x.keys, Survives key ∧ key ≠ ofString x.inbox
  paced : Paced (20 : ℚ) 10 ((x.now.instant :: timesOf x.s x.es).map seconds)
  afforded : (step x.env).Meets (TenantPasses x.client.tenantId x.s) x.first (x.auth :: x.es)
  lasting : (step x.env).Meets (Lasts x.s x.inbox) x.first (x.auth :: x.es)

theorem relayed_cases {name : String} (live : (relayed x.c name).isSome = true) :
    name = x.inbox ∨ x.allowed = true ∧ name ∈ x.keys.map subscribedName := by
  obtain ⟨t, c, started⟩ := x.exists_started
  obtain ⟨-, -, bounded⟩ := bounded_run started.there started.wired started.rest x.brings x.there x.isOpen
  rcases bounded name live with older | ⟨owned, member⟩
  · exact Or.inl (started.only name older)
  · rw [started.tenant] at owned
    split at owned
    · rename_i passes
      exact Or.inr ⟨passes, member⟩
    · cases owned

theorem restored_of_nil (none : x.keys = []) : x.Restored := by
  intro key
  rw [none]
  constructor
  · intro member
    cases member
  · rintro ⟨name, other, live, -⟩
    rcases x.relayed_cases live with same | ⟨-, member⟩
    · exact absurd same other
    · rw [none] at member
      cases member

theorem survives_of_restored (restored : x.Restored) {key : Utf16} (member : key ∈ x.keys) :
    x.allowed = true ∧ Survives key ∧ key ≠ ofString x.inbox := by
  obtain ⟨name, other, live, rfl⟩ := (restored key).mp member
  rcases x.relayed_cases live with same | ⟨passes, named⟩
  · exact absurd same other
  · obtain ⟨own, _, rfl⟩ := List.mem_map.mp named
    exact ⟨passes, survives_subscribedName own, fun same => other (ofString_injective same)⟩

theorem restored_iff_live (names : ∀ key ∈ x.keys, Survives key ∧ key ≠ ofString x.inbox) :
    x.Restored ↔ ∀ key ∈ x.keys, (relayed x.c (subscribedName key)).isSome = true := by
  constructor
  · intro restored key member
    obtain ⟨name, -, live, same⟩ := (restored key).mp member
    have own : name = subscribedName key :=
      ofString_injective (same.trans (ofString_subscribedName (names key member).1).symm)
    exact own ▸ live
  · intro all key
    constructor
    · intro member
      obtain ⟨survives, other⟩ := names key member
      refine ⟨subscribedName key, ?_, all key member, ofString_subscribedName survives⟩
      intro same
      exact other (same ▸ (ofString_subscribedName survives).symm)
    · rintro ⟨name, other, live, rfl⟩
      rcases x.relayed_cases live with same | ⟨-, named⟩
      · exact absurd same other
      · obtain ⟨own, member, rfl⟩ := List.mem_map.mp named
        rw [ofString_subscribedName (names own member).1]
        exact member

section
variable {x} {t : Server} {c : Connection}

theorem Started.live_iff (started : x.Started t c) (passes : x.allowed = true)
    (names : ∀ key ∈ x.keys, Survives key ∧ key ≠ ofString x.inbox) :
    (∀ key ∈ x.keys, (relayed x.c (subscribedName key)).isSome = true) ↔
      (step x.env).Meets (fun t e => Passes x.client.tenantId x.s t e ∧ Lasts x.s x.inbox t e) t x.es := by
  have owned : c.authenticatedTenant = some x.client.tenantId := started.tenant.trans (if_pos passes)
  refine live_run started.there started.wired owned started.only started.rest x.brings x.there x.isOpen ?_ ?_
  · refine List.Nodup.map_on ?_ x.client.subscriptions.distinct
    intro key member key' member' same
    rw [← ofString_subscribedName (names key member).1, same, ofString_subscribedName (names key' member').1]
  · intro named
    obtain ⟨key, member, same⟩ := List.mem_map.mp named
    exact (names key member).2 (same ▸ (ofString_subscribedName (names key member).1).symm)

theorem Started.paced_iff (started : x.Started t c) :
    Paced (20 : ℚ) 10 ((x.now.instant :: timesOf x.s x.es).map seconds) ↔
      (step x.env).Meets (SessionPasses x.client.tenantId x.s) t x.es := by
  have ordered : (((TokenBucket.new 20 10 x.now.instant).tryConsume x.now.instant).2.lastRefill ::
      timesOf x.s x.es).Pairwise (· ≤ ·) := by
    rw [lastRefill_tryConsume]
    exact x.ordered
  have all : Affords (TokenBucket.new 20 10 x.now.instant) (x.now.instant :: timesOf x.s x.es) ↔
      Paced (20 : ℚ) 10 ((x.now.instant :: timesOf x.s x.es).map seconds) := by
    exact_mod_cast affords_new
  have later := (session_run started.there started.bucket started.rest x.brings x.there x.isOpen ordered).2
  have now : (TokenBucket.new 20 10 x.now.instant).lastRefill ≤ x.now.instant := Nat.le_refl _
  rw [later, ← all, affords_cons now, and_iff_right (tryConsume_new _)]

theorem Started.unhindered_iff (started : x.Started t c) : x.Unhindered ↔
    (∀ key ∈ x.keys, Survives key ∧ key ≠ ofString x.inbox) ∧ x.allowed = true ∧
      (step x.env).Meets (fun t e => Passes x.client.tenantId x.s t e ∧ Lasts x.s x.inbox t e) t x.es := by
  have arrives : TenantPasses x.client.tenantId x.s x.first x.auth ↔ x.allowed = true := by
    rw [x.allowed_eq]
    constructor
    · intro passes
      exact passes _ _ rfl
    · rintro passes _ _ ⟨⟩
      exact passes
  have quiet : Lasts x.s x.inbox x.first x.auth := by
    rintro name - ⟨_, _, _, _, _, _, ⟨⟩, _⟩
  have both : (step x.env).Meets (fun t e => Passes x.client.tenantId x.s t e ∧ Lasts x.s x.inbox t e) t x.es ↔
      ((step x.env).Meets (SessionPasses x.client.tenantId x.s) t x.es ∧
        (step x.env).Meets (TenantPasses x.client.tenantId x.s) t x.es) ∧
          (step x.env).Meets (Lasts x.s x.inbox) t x.es := by
    simp only [passes_iff, Step.meets_and]
  rw [both, ← started.paced_iff]
  constructor
  · rintro ⟨names, paced, afforded, lasting⟩
    obtain ⟨first, rest⟩ := (Step.meets_cons_iff started.taken).mp afforded
    exact ⟨names, arrives.mp first, ⟨paced, rest⟩, ((Step.meets_cons_iff started.taken).mp lasting).2⟩
  · rintro ⟨names, passes, ⟨paced, afforded⟩, lasting⟩
    exact ⟨names, paced, (Step.meets_cons_iff started.taken).mpr ⟨arrives.mpr passes, afforded⟩,
      (Step.meets_cons_iff started.taken).mpr ⟨quiet, lasting⟩⟩

end

theorem restored_iff_unhindered (some : x.keys ≠ []) : x.Restored ↔ x.Unhindered := by
  obtain ⟨t, c, started⟩ := x.exists_started
  rw [started.unhindered_iff]
  constructor
  · intro restored
    have names : ∀ key ∈ x.keys, Survives key ∧ key ≠ ofString x.inbox :=
      fun key member => (x.survives_of_restored restored member).2
    obtain ⟨key, member⟩ := List.exists_mem_of_ne_nil _ some
    have passes := (x.survives_of_restored restored member).1
    exact ⟨names, passes, (started.live_iff passes names).mp ((x.restored_iff_live names).mp restored)⟩
  · rintro ⟨names, passes, meets⟩
    exact (x.restored_iff_live names).mpr ((started.live_iff passes names).mpr meets)

end Reopened

section
variable {η : Type*} {client : RealtimeClient η} {env : Env} {server server' : Server} {s : SessionId}
  {c : Connection} {key : Utf16} {now : Clock}

theorem waiting_sub (taken : step env server (.inbound s (subBytes client key) now) = some server') :
    ∃ c, server'.waiting s = some c := by
  obtain ⟨c, ready, outcome⟩ := inbound_cases taken
  obtain ⟨-, isOpen, idle⟩ := waiting_eq_some ready
  rw [subBytes, parseInbound_encodeFrame] at outcome
  rcases outcome with ⟨err, failed, -⟩ | ⟨frame, parsed, outcome⟩
  · cases failed
  rcases outcome with ⟨-, rfl⟩ | ⟨command, tenant, ctx, handles, rfl⟩
  · exact ⟨c, ready⟩
  · have opcode : frame.opcode = .subscribe := by
      rw [← Except.ok.inj (Option.some.inj parsed)]
      rfl
    cases handles.dispatched with
    | idle => exact ⟨_, waiting_set isOpen idle⟩
    | pattern => exact ⟨_, waiting_set isOpen idle⟩
    | exact => exact ⟨_, waiting_set isOpen idle⟩
    | published _ named => simp [publishKey, opcode] at named
    | accepted _ other => cases opcode.symm.trans other
    | rejected _ other => cases opcode.symm.trans other
    | beat other => cases opcode.symm.trans other
    | unsubPattern other => cases opcode.symm.trans other
    | unsubExact other => cases opcode.symm.trans other
    | replayed _ _ other => cases opcode.symm.trans other

theorem step_sub (ready : server.waiting s = some c) (owned : c.authenticatedTenant = some client.tenantId)
    (exact : isPattern (client.frame .subscribe key []).frame.channelId = false)
    (allowed : (server.ctx.rateLimiter.check s client.tenantId now.instant).1 = true) :
    step env server (.inbound s (subBytes client key) now) =
      some (subscribed s c (client.frame .subscribe key []).frame now server) := by
  have parsed := parseInbound_encodeFrame c.transport (client.frame .subscribe key [])
  show server.inboundStep env s _ now = _
  simp only [inboundStep, ready, Option.bind_some, subBytes, parsed, Option.map_some]
  exact congrArg some (takeFrame_subscribe _ rfl owned exact allowed)

def burst (client : RealtimeClient η) (s : SessionId) (now : Clock) (keys : List Utf16) : List Event :=
  keys.map fun key => .inbound s (subBytes client key) now

theorem exists_burst (ready : server.waiting s = some c) (keys : List Utf16) :
    ∃ server' c', (step env).run server (burst client s now keys) = some server' ∧ server'.waiting s = some c' := by
  induction keys generalizing server c with
  | nil => exact ⟨server, c, rfl, ready⟩
  | cons key keys ih =>
      have parsed := parseInbound_encodeFrame c.transport (client.frame .subscribe key [])
      have taken : step env server (.inbound s (subBytes client key) now) =
          some (server.takeFrame env s c (client.frame .subscribe key []).frame now) := by
        show server.inboundStep env s _ now = _
        simp only [inboundStep, ready, Option.bind_some, subBytes, parsed, Option.map_some]
      obtain ⟨d, waits⟩ := waiting_sub taken
      obtain ⟨server', c', reached, there⟩ := ih waits
      exact ⟨server', c', Step.run_cons_iff.mpr ⟨_, taken, reached⟩, there⟩

theorem framesOf_burst (s : SessionId) (now : Clock) (keys : List Utf16) :
    framesOf s (burst client s now keys) = keys.map fun key => (subBytes client key, now) := by
  rw [framesOf, burst, List.filterMap_map]
  simp only [Function.comp_def, arrivalOf_inbound, List.filterMap_eq_map']

end

section Sample
open SampleToken Sample

def letters : List Utf16 := (List.range 20).map fun i => [UInt16.ofNat (97 + i)]

def crowd : RealtimeClient Nat where
  tenantId := tenantOne
  open_ := true
  subscriptions :=
    { entries := letters.map fun key => (key, [0])
      distinct := by decide
      registered := by decide }
  reassembler := .new
  pendingSends := []

def aliceAuth : FrameFields := crowd.frame .auth [] (ofString alice.text)

theorem builder_aliceAuth : aliceAuth.builder = alice.authFrame := by
  have fits : utf8ByteLength (ofString alice.text) ≤ lenPayload := by
    rw [utf8ByteLength, toUsv_ofString]
    exact text_fits alice (by simp [SampleToken.all])
  have payload : cut lenPayload (ofString alice.text) = alice.text := by
    rw [utf8ByteLength_eq] at fits
    rw [cut, fitting_eq_self fits]
    exact toUsv_ofString alice.text
  have channel : cut lenChannel [] = "" := rfl
  simp only [FrameFields.builder, aliceAuth, RealtimeClient.frame, payload, channel, authFrame]
  rfl

theorem encodeFrame_aliceAuth : encodeFrame aliceAuth = alice.authFrame.build.toList := by
  rw [encodeFrame_eq, ← builder_aliceAuth]
  rfl

def opened : Server := connected sessionOne (registered false)

theorem run_opened : (step env).run (start {} 30000000000 false false)
    [.admin (.registerTenant tenantOne secret), .connect sessionOne .webSocket] = some opened :=
  Step.run_cons_iff.mpr ⟨_, step_registered false, Step.run_cons_iff.mpr ⟨_, step_connected rfl, rfl⟩⟩

theorem valid_aliceAuth : opened.ctx.auth.validate env.codec epoch.unixSecs tenantOne aliceAuth.frame.payload =
    .ok alice.claims := by
  have payload : aliceAuth.frame.payload = alice.text := by
    have named : aliceAuth.frame.payload = trimEndNul aliceAuth.builder.payload := rfl
    rw [named, builder_aliceAuth]
    exact trim_text alice (by simp [SampleToken.all])
  have active : opened.ctx.auth.secrets alice.claims.tenantId = some secret := rfl
  have fresh : epoch.unixSecs ≤ alice.claims.exp := by decide
  have held : secret ∈ opened.ctx.auth.activeSecrets alice.claims.tenantId :=
    List.mem_append_left _ (by simp [active])
  have valid := TokenService.validate_of_signed (signed alice (by simp [SampleToken.all])) held fresh
  have owner : tenantOne = alice.claims.tenantId := rfl
  have libraries : env.codec = codec := rfl
  rw [payload, owner, libraries]
  exact valid

theorem step_aliceAuth :
    step env opened (.inbound sessionOne (encodeFrame aliceAuth) epoch) = some (signedIn false) := by
  rw [encodeFrame_aliceAuth]
  exact step_signedIn false

theorem timesOf_burst : timesOf sessionOne (burst crowd sessionOne epoch letters) = letters.map fun _ => 0 := by
  rw [timesOf, framesOf_burst, List.map_map]
  rfl

def pair : RealtimeClient Nat :=
  { crowd with
    subscriptions :=
      { entries := [(ofString "a", [0]), (ofString "b", [0])]
        distinct := by decide
        registered := by decide } }

theorem survives_ofString {name : String} (fits : (utf8 name).length ≤ lenChannel) (plain : trimEndNul name = name) :
    Survives (ofString name) := by
  refine ⟨wellFormed_ofString name, ?_, ?_⟩
  · rw [utf8ByteLength, toUsv_ofString]
    exact fits
  · rw [toUsv_ofString, plain]

end Sample

end RealtimePlatform.Proof.Reconnection
