import RealtimePlatform.Proof.LimitChanges
import RealtimePlatform.Proof.RateLimits

namespace RealtimePlatform.Proof.SessionBuckets
open Library Backend Server LimitChanges

def framed (s : SessionId) : Event → Option (Frame × Clock)
  | .inbound q bytes now => if q = s then (Frame.parseSlice bytes).toOption.map fun frame => (frame, now) else none
  | _ => none

def named (s : SessionId) (server : Server) (e : Event) : Option RateLimitConfig :=
  (framed s e).map fun p => server.ctx.rateLimiter.configFor p.1.tenantId

def firstNamed (env : Env) (s : SessionId) (opened : Server) (es : List Event) : Option RateLimitConfig :=
  ((step env).observed (named s) opened es).head?

def GivenBy (config : RateLimitConfig) (bucket : TokenBucket) : Prop :=
  bucket.capacity = config.sessionCapacity ∧ bucket.refillPerSec = config.sessionRefillPerSec

def SameQuota (a b : RateLimitConfig) : Prop :=
  a.sessionCapacity = b.sessionCapacity ∧ a.sessionRefillPerSec = b.sessionRefillPerSec

def HasHad (env : Env) (opened : Server) (ds : List Event) (tenantId : TenantId) (P : RateLimitConfig → Prop) :
    Prop :=
  ∃ cs v, cs <+: ds ∧ (step env).run opened cs = some v ∧ P (v.ctx.rateLimiter.configFor tenantId)

def SignedInAt (env : Env) (s : SessionId) (opened : Server) (ds : List Event) (u : Server)
    (tenantId : TenantId) : Prop :=
  (step env).run opened ds = some u ∧
    ∃ c, u.connections s = some c ∧ c.isOpen = true ∧ c.authenticatedTenant = some tenantId

/-- Whenever the session is authenticated as a tenant, its bucket is one of that tenant. -/
def Follows (env : Env) (s : SessionId) (opened : Server) (es : List Event) : Prop :=
  ∀ ds u tenantId, ds <+: es → SignedInAt env s opened ds u tenantId →
    ∃ bucket, u.ctx.rateLimiter.perSession s = some bucket ∧
      HasHad env opened ds tenantId fun config => GivenBy config bucket

/-- Whenever the session is authenticated as a tenant, what its first frame found is what that tenant has had. -/
def NamesAlike (env : Env) (s : SessionId) (opened : Server) (es : List Event) : Prop :=
  ∀ ds u tenantId, ds <+: es → SignedInAt env s opened ds u tenantId →
    ∃ first, firstNamed env s opened ds = some first ∧ HasHad env opened ds tenantId (SameQuota first)

section
variable {env : Env} {l l' : Ledger} {e : Event} {s : SessionId} {tenantId : TenantId} {now : Nat}
  {limiter : RateLimitService} {bucket : TokenBucket} {config : RateLimitConfig}

/-- Leaves the bucket of the session alone. -/
def Apart (s : SessionId) (l l' : Ledger) : Prop :=
  l'.rateLimiter.perSession s = l.rateLimiter.perSession s ∧ (l.closed s = true → l'.closed s = true)

theorem apart_refl : Apart s l l := ⟨rfl, id⟩

theorem apart_drop {q : SessionId} (other : q ≠ s) : Apart s l (l.drop q) := by
  refine ⟨Function.update_of_ne other.symm _ _, fun closed => ?_⟩
  show Function.update _ _ _ _ = _
  rw [Function.update_of_ne other.symm, closed]

theorem apart_http (request : HttpRequest) (now : Clock) : Apart s l (l.http env request now) := by
  unfold Ledger.http
  split
  · dsimp only
    split
    · exact apart_refl
    · exact apart_refl
  · exact apart_refl

theorem apart_admin (op : AdminOp) : Apart s l (l.admin op) := by
  cases op <;> exact apart_refl

theorem perSession_check_self : (limiter.check s tenantId now).2.perSession s =
    some (limiter.sessionTry s tenantId now).2 :=
  Function.update_self _ _ _

theorem perSession_check_of_ne {q : SessionId} (other : q ≠ s) :
    (limiter.check q tenantId now).2.perSession s = limiter.perSession s :=
  Function.update_of_ne other.symm _ _

theorem apart_frame {q : SessionId} (other : q ≠ s) (frame : Frame) (now : Clock) :
    Apart s l (l.frame env q frame now) := by
  have charged : (l.charge q frame.tenantId now).rateLimiter.perSession s = l.rateLimiter.perSession s :=
    perSession_check_of_ne other
  unfold Ledger.frame Ledger.settle
  dsimp only
  split
  · split
    · have dropped := apart_drop (l := (l.charge q frame.tenantId now).count frame.tenantId frame.opcode.label) other
      exact ⟨dropped.1.trans charged, dropped.2⟩
    · exact ⟨charged, id⟩
  · exact ⟨charged, id⟩

theorem perSession_frame {frame : Frame} {now : Clock} (stays : (l.frame env s frame now).closed s = false) :
    l.closed s = false ∧ (l.frame env s frame now).rateLimiter.perSession s =
      some (l.rateLimiter.sessionTry s frame.tenantId now.instant).2 := by
  have charged : (l.charge s frame.tenantId now).rateLimiter.perSession s =
      some (l.rateLimiter.sessionTry s frame.tenantId now.instant).2 := perSession_check_self
  unfold Ledger.frame Ledger.settle at stays ⊢
  dsimp only at stays ⊢
  split at stays
  · rename_i allowed
    rw [if_pos allowed]
    split at stays
    · exact absurd stays (by simp [Ledger.drop])
    · rename_i accepted
      rw [if_neg accepted]
      exact ⟨stays, charged⟩
  · rename_i refused
    rw [if_neg refused]
    exact ⟨stays, charged⟩

theorem perSession_step (taken : Ledger.step env l e = some l') (stays : l'.closed s = false) :
    l.closed s = false ∧ l'.rateLimiter.perSession s =
      (framed s e).elim (l.rateLimiter.perSession s) fun p =>
        some (l.rateLimiter.sessionTry s p.1.tenantId p.2.instant).2 := by
  have kept (apart : Apart s l l') : l.closed s = false ∧ l'.rateLimiter.perSession s = l.rateLimiter.perSession s := by
    refine ⟨eq_false_of_ne_true fun closed => ?_, apart.1⟩
    rw [apart.2 closed] at stays
    cases stays
  obtain ⟨rfl, _⟩ := RateLimits.after_of_step taken
  cases e with
  | inbound q bytes now =>
      have arrived : l.after env (.inbound q bytes now) = l.arrive env q bytes now := rfl
      rw [arrived] at stays kept ⊢
      unfold Ledger.arrive framed at *
      cases parsed : Frame.parseSlice bytes with
      | error err =>
          simp only [parsed] at stays kept ⊢
          have none := kept apart_refl
          simpa [Except.toOption] using none
      | ok frame =>
          simp only [parsed] at stays kept ⊢
          by_cases own : q = s
          · subst own
            simpa [Except.toOption] using perSession_frame stays
          · simpa [own] using kept (apart_frame own frame now)
  | disconnect q now =>
      by_cases own : q = s
      · subst own
        exact absurd stays (by simp [Ledger.after, Ledger.drop])
      · exact kept (apart_drop own)
  | http request now => exact kept (apart_http request now)
  | admin op => exact kept (apart_admin op)
  | _ => exact kept apart_refl

theorem givenBy_tryConsume : GivenBy config (bucket.tryConsume now).2 ↔ GivenBy config bucket := by
  unfold GivenBy
  rw [tryConsume_limits.1, tryConsume_limits.2]

theorem givenBy_new (config : RateLimitConfig) (now : Nat) :
    GivenBy config (TokenBucket.new config.sessionCapacity config.sessionRefillPerSec now) := ⟨rfl, rfl⟩

theorem givenBy_iff {first : RateLimitConfig} (given : GivenBy first bucket) :
    GivenBy config bucket ↔ SameQuota first config := by
  unfold GivenBy SameQuota
  rw [given.1, given.2, Nat.cast_inj, Nat.cast_inj]

theorem givenBy_sessionTry {first : Option RateLimitConfig} (held : Option.Rel GivenBy first (limiter.perSession s))
    (tenantId : TenantId) (now : Nat) :
    Option.Rel GivenBy (first.or (some (limiter.configFor tenantId))) (some (limiter.sessionTry s tenantId now).2) := by
  unfold RateLimitService.sessionTry
  cases had : limiter.perSession s with
  | none =>
      rw [had] at held
      cases held
      exact .some (givenBy_tryConsume.mpr (givenBy_new _ now))
  | some bucket =>
      rw [had] at held
      cases held with
      | some given => exact .some (givenBy_tryConsume.mpr given)

end

section
variable {env : Env} {s : SessionId} {server server' opened u : Server} {e : Event} {es : List Event}

theorem framed_inbound {bytes : List UInt8} {frame : Frame} {now : Clock} (parsed : Frame.parseSlice bytes = .ok frame) :
    framed s (.inbound s bytes now) = some (frame, now) := by
  simp [framed, parsed, Except.toOption]

theorem framed_eq_some {p : Frame × Clock} (sent : framed s e = some p)
    (taken : step env server e = some server') : ∃ c, server.connections s = some c := by
  cases e with
  | inbound q bytes now =>
      simp only [framed] at sent
      split at sent
      · rename_i own
        subst own
        obtain ⟨c, ready, _⟩ := Option.bind_eq_some_iff.mp taken
        exact ⟨c, (waiting_eq_some ready).1⟩
      · cases sent
  | _ => cases sent

theorem perSession_unconnected {config : RateLimitConfig} {timeout : Nat} {hasRedis hasWebPush : Bool}
    (reached : (step env).run (start config timeout hasRedis hasWebPush) es = some server) :
    ∀ s, server.connections s = none → server.ctx.rateLimiter.perSession s = none := by
  refine Step.run_invariant (I := fun u => ∀ s, u.connections s = none → u.ctx.rateLimiter.perSession s = none)
    ?_ reached fun s _ => rfl
  intro t e u held taken s absent
  have before : t.connections s = none := by
    by_contra there
    obtain ⟨c, found⟩ := Option.ne_none_iff_exists'.mp there
    obtain ⟨c', kept⟩ := connections_kept taken found
    rw [absent] at kept
    cases kept
  have kept := perSession_step (s := s) (step_ledger taken) (by simp [Server.ledger, RealtimeContext.ledger, closed, absent])
  cases sent : framed s e with
  | none =>
      rw [sent] at kept
      exact kept.2.trans (held s before)
  | some p =>
      obtain ⟨c, found⟩ := framed_eq_some sent taken
      rw [before] at found
      cases found

theorem firstNamed_concat (reached : (step env).run opened es = some u) (taken : step env u e = some server) :
    firstNamed env s opened (es ++ [e]) = (firstNamed env s opened es).or (named s u e) := by
  unfold firstNamed
  rw [Step.observed_append (named s) reached, List.head?_append]
  congr 1
  cases found : named s u e <;> simp [Step.observed, found, taken]

theorem perSession_run (fresh : opened.ctx.rateLimiter.perSession s = none)
    (reached : (step env).run opened es = some u) (live : u.closed s = false) :
    Option.Rel GivenBy (firstNamed env s opened es) (u.ctx.rateLimiter.perSession s) := by
  refine Step.run_induction (fun es u => u.closed s = false →
    Option.Rel GivenBy (firstNamed env s opened es) (u.ctx.rateLimiter.perSession s)) ?_ ?_ reached live
  · intro _
    rw [fresh]
    exact .none
  · intro es t e u before held taken live
    obtain ⟨earlier, kept⟩ := perSession_step (step_ledger taken) live
    have given := held earlier
    rw [firstNamed_concat before taken, show u.ctx.rateLimiter.perSession s = _ from kept]
    unfold named
    cases framed s e with
    | none =>
        rw [Option.map_none, Option.or_none]
        exact given
    | some p => exact givenBy_sessionTry given p.1.tenantId p.2.instant

theorem perSession_connect {transport : Transport} (connects : step env server (.connect s transport) = some opened) :
    server.connections s = none ∧ opened.ctx.rateLimiter = server.ctx.rateLimiter := by
  change server.connectStep s transport = some opened at connects
  unfold connectStep at connects
  split at connects
  · cases connects
  · obtain rfl := Option.some.inj connects
    exact ⟨‹_›, rfl⟩

end

/-- The bucket of a connection follows the tenant it authenticates as exactly when its first frame names a
tenant with limits that the authenticated one has had while it was open. -/
theorem follows_iff (env : Env) (config : RateLimitConfig) (timeout : Nat) (hasRedis hasWebPush : Bool)
    (before : List Event) (first opened : Server) (s : SessionId) (transport : Transport)
    (reached : (step env).run (start config timeout hasRedis hasWebPush) before = some first)
    (connects : step env first (.connect s transport) = some opened) (es : List Event) :
    Follows env s opened es ↔ NamesAlike env s opened es := by
  obtain ⟨absent, same⟩ := perSession_connect connects
  have fresh : opened.ctx.rateLimiter.perSession s = none := same ▸ perSession_unconnected reached s absent
  have made : ∀ {ds u tenantId}, SignedInAt env s opened ds u tenantId →
      Option.Rel GivenBy (firstNamed env s opened ds) (u.ctx.rateLimiter.perSession s) := by
    rintro ds u tenantId ⟨arrived, c, there, isOpen, _⟩
    refine perSession_run fresh arrived ?_
    rw [closed_of_found there, isOpen]
    rfl
  constructor
  · intro follows ds u tenantId short signedIn
    obtain ⟨bucket, has, cs, v, earlier, passed, given⟩ := follows ds u tenantId short signedIn
    have rel := made signedIn
    rw [has] at rel
    cases found : firstNamed env s opened ds with
    | none =>
        rw [found] at rel
        cases rel
    | some quota =>
        rw [found] at rel
        cases rel with
        | some own => exact ⟨quota, rfl, cs, v, earlier, passed, (givenBy_iff own).mp given⟩
  · intro alike ds u tenantId short signedIn
    obtain ⟨quota, found, cs, v, earlier, passed, same⟩ := alike ds u tenantId short signedIn
    have rel := made signedIn
    rw [found] at rel
    cases has : u.ctx.rateLimiter.perSession s with
    | none =>
        rw [has] at rel
        cases rel
    | some bucket =>
        rw [has] at rel
        cases rel with
        | some own => exact ⟨bucket, rfl, cs, v, earlier, passed, (givenBy_iff own).mpr same⟩

section Sample
open SampleToken Sample

def generous : RateLimitConfig := { sessionCapacity := 100 }

def favoured : Server :=
  (registered false).setCtx (adminStep (.setTenantLimits tenantTwo generous) (registered false).ctx)

def favouring : List Event := [.admin (.registerTenant tenantOne secret), .admin (.setTenantLimits tenantTwo generous)]

def borrowing : List Event :=
  [.inbound sessionTwo (spoofed tenantTwo).build.toList epoch, .inbound sessionTwo alice.authFrame.build.toList epoch]

def borrowed : Server :=
  authed sessionTwo (Connection.new .webSocket) aliceParsed alice.claims epoch (afterSpoofed tenantTwo favoured)

theorem run_favouring : (step env).run (started false) favouring = some favoured := rfl

theorem step_favoured : step env favoured (.connect sessionTwo .webSocket) = some (connected sessionTwo favoured) :=
  step_connected rfl

theorem step_borrowing : step env (connected sessionTwo favoured)
    (.inbound sessionTwo (spoofed tenantTwo).build.toList epoch) = some (afterSpoofed tenantTwo favoured) := by
  refine step_spoofed tenantTwo ?_
  decide +kernel

theorem step_borrowed : step env (afterSpoofed tenantTwo favoured)
    (.inbound sessionTwo alice.authFrame.build.toList epoch) = some borrowed := by
  have allowed : ((afterSpoofed tenantTwo favoured).ctx.rateLimiter.check sessionTwo tenantOne epoch.instant).1 =
      true := by
    decide +kernel
  exact step_auth env (afterSpoofed tenantTwo favoured) sessionTwo (Connection.new .webSocket) epoch alice
    (by simp [all]) rfl (waiting_set rfl rfl) rfl allowed (by decide)

theorem run_borrowing : (step env).run (connected sessionTwo favoured) borrowing = some borrowed :=
  Step.run_cons_iff.mpr ⟨_, step_borrowing, Step.run_cons_iff.mpr ⟨_, step_borrowed, rfl⟩⟩

theorem firstNamed_borrowing : firstNamed env sessionTwo (connected sessionTwo favoured) borrowing = some generous := by
  have parsed : Frame.parseSlice (spoofed tenantTwo).build.toList = .ok (spoofedParsed tenantTwo) :=
    Frame.parseSlice_raw (spoofedParsed tenantTwo)
  have found : named sessionTwo (connected sessionTwo favoured)
      (.inbound sessionTwo (spoofed tenantTwo).build.toList epoch) = some generous := by
    unfold named
    rw [framed_inbound parsed]
    rfl
  unfold firstNamed borrowing Step.observed
  rw [found]
  rfl

theorem configFor_borrowing {cs : List Event} {v : Server} (short : cs <+: borrowing)
    (reached : (step env).run (connected sessionTwo favoured) cs = some v) :
    v.ctx.rateLimiter.configFor tenantOne = {} := by
  match cs with
  | [] => exact Option.some.inj reached ▸ rfl
  | [e] =>
      obtain ⟨rfl, _⟩ := List.cons_prefix_cons.mp short
      have first := Step.run_cons_iff.mpr ⟨_, step_borrowing, Step.run_nil _ _⟩
      exact Option.some.inj (first.symm.trans reached) ▸ rfl
  | e :: d :: rest =>
      obtain ⟨rfl, second⟩ := List.cons_prefix_cons.mp short
      obtain ⟨rfl, third⟩ := List.cons_prefix_cons.mp second
      obtain rfl := List.prefix_nil.mp third
      exact Option.some.inj (run_borrowing.symm.trans reached) ▸ rfl

theorem not_follows_borrowing : (step env).run (started false) favouring = some favoured ∧
    step env favoured (.connect sessionTwo .webSocket) = some (connected sessionTwo favoured) ∧
    ¬ Follows env sessionTwo (connected sessionTwo favoured) borrowing := by
  refine ⟨run_favouring, step_favoured, fun follows => ?_⟩
  obtain ⟨bucket, has, cs, v, short, reached, given⟩ := follows borrowing borrowed tenantOne List.prefix_rfl
    ⟨run_borrowing, _, connections_setConnection_self _ _ _, rfl, rfl⟩
  have live : borrowed.closed sessionTwo = false := closed_of_found (connections_setConnection_self _ _ _)
  have made := perSession_run rfl run_borrowing live
  rw [firstNamed_borrowing, has] at made
  rw [configFor_borrowing short reached] at given
  cases made with
  | some own => exact absurd ((givenBy_iff own).mp given).1 (by decide)

def signingIn : List Event := [.inbound sessionOne alice.authFrame.build.toList epoch]

theorem follows_iff_signingIn : Follows env sessionOne (connected sessionOne (registered false)) signingIn := by
  have opens : step env (registered false) (.connect sessionOne .webSocket) = _ := step_connected rfl
  have registers : (step env).run (started false) [.admin (.registerTenant tenantOne secret)] =
      some (registered false) := Step.run_cons_iff.mpr ⟨_, step_registered false, rfl⟩
  have reached : (step env).run (connected sessionOne (registered false)) signingIn = some (signedIn false) :=
    Step.run_cons_iff.mpr ⟨_, step_signedIn false, rfl⟩
  refine (follows_iff env {} 30000000000 false false _ (registered false) _ sessionOne .webSocket registers opens
    signingIn).mpr ?_
  rintro ds u tenantId short ⟨ran, c, there, isOpen, signed⟩
  match ds with
  | [] =>
      obtain rfl := Option.some.inj ran
      obtain rfl := Option.some.inj ((connections_setConnection_self _ _ _).symm.trans there)
      cases signed
  | e :: rest =>
      obtain ⟨rfl, shorter⟩ := List.cons_prefix_cons.mp short
      obtain rfl := List.prefix_nil.mp shorter
      obtain rfl := Option.some.inj (reached.symm.trans ran)
      obtain rfl := Option.some.inj ((waiting_eq_some (waiting_signedIn false)).1.symm.trans there)
      cases signed
      refine ⟨{}, ?_, [], _, List.nil_prefix, rfl, rfl, rfl⟩
      have parsed : Frame.parseSlice alice.authFrame.build.toList = .ok aliceParsed := Frame.parseSlice_raw aliceParsed
      have found : named sessionOne (connected sessionOne (registered false))
          (.inbound sessionOne alice.authFrame.build.toList epoch) = some {} := by
        unfold named
        rw [framed_inbound parsed]
        rfl
      unfold firstNamed Step.observed
      rw [found]
      rfl

end Sample
end RealtimePlatform.Proof.SessionBuckets
