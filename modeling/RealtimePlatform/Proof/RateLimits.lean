import RealtimePlatform.Backend.Ledger
import RealtimePlatform.Backend.TenantPart
import RealtimePlatform.Proof.Handling

namespace RealtimePlatform.Proof.RateLimits
open Library Backend Backend.Server Backend.UseCases

def names (tenantId : TenantId) (bytes : List UInt8) : Bool :=
  (Frame.parseSlice bytes).toOption.any fun frame => frame.tenantId = tenantId

def decision (tenantId : TenantId) (own : SessionId → Bool) (limiter : RateLimitService) :
    Event → Option Bool
  | .inbound s bytes now =>
    if own s && names tenantId bytes then some (limiter.check s tenantId now.instant).1 else none
  | _ => none

def decisions (env : Env) (tenantId : TenantId) (own : SessionId → Bool) (server : Server)
    (es : List Event) : List Bool :=
  (step env).observed (fun t e => decision tenantId own t.ctx.rateLimiter e) server es

/-- Everything that can matter to the tenant's limits: what its own sessions send, what names it, and
what its administrators and its HTTP clients do. -/
def visible (tenantId : TenantId) (own : SessionId → Bool) : Event → Bool
  | .inbound s bytes _ => own s || names tenantId bytes
  | .http request _ => request.tenantId = tenantId
  | .disconnect s _ => own s
  | .admin _ => true
  | _ => false

/-- Whether a frame that names the tenant is sent on one of its own sessions. -/
def authored (tenantId : TenantId) (own : SessionId → Bool) : Event → Bool
  | .inbound s bytes _ => own s || !names tenantId bytes
  | _ => true

structure SameLimits (tenantId : TenantId) (mine : SessionId → Prop) (a b : RateLimitService) :
    Prop where
  defaultConfig : a.defaultConfig = b.defaultConfig
  overrides : a.overrides = b.overrides
  session : ∀ s, mine s → a.perSession s = b.perSession s
  tenant : a.perTenant tenantId = b.perTenant tenantId

section
variable {tenantId : TenantId} {mine : SessionId → Prop} {a b : RateLimitService}

theorem SameLimits.refl (tenantId : TenantId) (mine : SessionId → Prop) (a : RateLimitService) :
    SameLimits tenantId mine a a :=
  ⟨rfl, rfl, fun _ _ => rfl, rfl⟩

theorem SameLimits.symm (same : SameLimits tenantId mine a b) : SameLimits tenantId mine b a :=
  ⟨same.defaultConfig.symm, same.overrides.symm, fun s held => (same.session s held).symm,
    same.tenant.symm⟩

theorem SameLimits.mono (same : SameLimits tenantId mine a b) {fewer : SessionId → Prop}
    (shrinks : ∀ s, fewer s → mine s) : SameLimits tenantId fewer a b :=
  ⟨same.defaultConfig, same.overrides, fun s held => same.session s (shrinks s held), same.tenant⟩

theorem SameLimits.configFor (same : SameLimits tenantId mine a b) (named : TenantId) :
    a.configFor named = b.configFor named := by
  simp only [RateLimitService.configFor, same.defaultConfig, same.overrides]

theorem SameLimits.sessionTry (same : SameLimits tenantId mine a b) {s : SessionId} (held : mine s)
    (named : TenantId) (now : Nat) : a.sessionTry s named now = b.sessionTry s named now := by
  simp only [RateLimitService.sessionTry, same.configFor named, same.session s held]

theorem SameLimits.tenantTry (same : SameLimits tenantId mine a b) (now : Nat) :
    a.tenantTry tenantId now = b.tenantTry tenantId now := by
  simp only [RateLimitService.tenantTry, same.configFor tenantId, same.tenant]

theorem SameLimits.allowed (same : SameLimits tenantId mine a b) {s : SessionId} (held : mine s)
    (now : Nat) : (a.check s tenantId now).1 = (b.check s tenantId now).1 := by
  simp only [RateLimitService.check, same.sessionTry held tenantId now, same.tenantTry now]

theorem SameLimits.check (same : SameLimits tenantId mine a b) (s : SessionId) (named : TenantId)
    (now : Nat) : SameLimits tenantId mine (a.check s named now).2 (b.check s named now).2 where
  defaultConfig := same.defaultConfig
  overrides := same.overrides
  session q held := by
    by_cases here : q = s
    · subst here
      show Function.update _ _ _ _ = Function.update _ _ _ _
      rw [Function.update_self, Function.update_self, same.sessionTry held]
    · show Function.update _ _ _ _ = Function.update _ _ _ _
      rw [Function.update_of_ne here, Function.update_of_ne here]
      exact same.session q held
  tenant := by
    by_cases here : tenantId = named
    · subst here
      show Function.update _ _ _ _ = Function.update _ _ _ _
      rw [Function.update_self, Function.update_self, same.tenantTry]
    · show Function.update _ _ _ _ = Function.update _ _ _ _
      rw [Function.update_of_ne here, Function.update_of_ne here]
      exact same.tenant

theorem SameLimits.check_left (same : SameLimits tenantId mine a b) {s : SessionId} {named : TenantId}
    (others : ¬ mine s) (apart : named ≠ tenantId) (now : Nat) :
    SameLimits tenantId mine (a.check s named now).2 b where
  defaultConfig := same.defaultConfig
  overrides := same.overrides
  session q held := by
    have here : q ≠ s := fun same => others (same ▸ held)
    show Function.update _ _ _ _ = _
    rw [Function.update_of_ne here]
    exact same.session q held
  tenant := by
    show Function.update _ _ _ _ = _
    rw [Function.update_of_ne apart.symm]
    exact same.tenant

theorem SameLimits.dropSession (same : SameLimits tenantId mine a b) (s : SessionId) :
    SameLimits tenantId mine (a.dropSession s) (b.dropSession s) where
  defaultConfig := same.defaultConfig
  overrides := same.overrides
  session q held := by
    show Function.update _ _ _ _ = Function.update _ _ _ _
    by_cases here : q = s
    · rw [here, Function.update_self, Function.update_self]
    · rw [Function.update_of_ne here, Function.update_of_ne here]
      exact same.session q held
  tenant := same.tenant

theorem SameLimits.dropSession_left (same : SameLimits tenantId mine a b) (s : SessionId) :
    SameLimits tenantId (fun q => mine q ∧ q ≠ s) (a.dropSession s) b where
  defaultConfig := same.defaultConfig
  overrides := same.overrides
  session q held := by
    show Function.update _ _ _ _ = _
    rw [Function.update_of_ne held.2]
    exact same.session q held.1
  tenant := same.tenant

theorem SameLimits.checkTenant (same : SameLimits tenantId mine a b) (now : Nat) :
    SameLimits tenantId mine (a.checkTenant tenantId now).2 (b.checkTenant tenantId now).2 where
  defaultConfig := same.defaultConfig
  overrides := same.overrides
  session := same.session
  tenant := by
    show Function.update _ _ _ _ = Function.update _ _ _ _
    rw [Function.update_self, Function.update_self, same.tenantTry]

theorem SameLimits.checkTenant_left (same : SameLimits tenantId mine a b) {named : TenantId}
    (apart : named ≠ tenantId) (now : Nat) :
    SameLimits tenantId mine (a.checkTenant named now).2 b where
  defaultConfig := same.defaultConfig
  overrides := same.overrides
  session := same.session
  tenant := by
    show Function.update _ _ _ _ = _
    rw [Function.update_of_ne apart.symm]
    exact same.tenant

theorem SameLimits.override (same : SameLimits tenantId mine a b) (named : TenantId)
    (config : Option RateLimitConfig) : SameLimits tenantId mine
      { a with
        overrides := Function.update a.overrides named config
        perTenant := Function.update a.perTenant named none }
      { b with
        overrides := Function.update b.overrides named config
        perTenant := Function.update b.perTenant named none } where
  defaultConfig := same.defaultConfig
  overrides := by
    show Function.update _ _ _ = Function.update _ _ _
    rw [same.overrides]
  session := same.session
  tenant := by
    show Function.update _ _ _ _ = Function.update _ _ _ _
    by_cases here : tenantId = named
    · rw [here, Function.update_self, Function.update_self]
    · rw [Function.update_of_ne here, Function.update_of_ne here]
      exact same.tenant

end

structure Alike (tenantId : TenantId) (own : SessionId → Bool) (counted : Bool) (l k : Ledger) :
    Prop where
  auth : l.auth = k.auth
  limits : SameLimits tenantId (fun s => own s = true ∧ l.closed s = false ∧ k.closed s = false)
    l.rateLimiter k.rateLimiter
  messages : counted = true → l.messagesTotal tenantId = k.messagesTotal tenantId
  limited : counted = true → l.rateLimitedTotal tenantId = k.rateLimitedTotal tenantId

section
variable {tenantId : TenantId} {own : SessionId → Bool} {counted : Bool} {l k : Ledger}

theorem Alike.refl (tenantId : TenantId) (own : SessionId → Bool) (counted : Bool) (l : Ledger) :
    Alike tenantId own counted l l :=
  ⟨rfl, SameLimits.refl _ _ _, fun _ => rfl, fun _ => rfl⟩

theorem Alike.symm (alike : Alike tenantId own counted l k) : Alike tenantId own counted k l where
  auth := alike.auth.symm
  limits := alike.limits.symm.mono fun _ held => ⟨held.1, held.2.2, held.2.1⟩
  messages on := (alike.messages on).symm
  limited on := (alike.limited on).symm

theorem Alike.count (alike : Alike tenantId own counted l k) (named : TenantId) (label : String) :
    Alike tenantId own counted (l.count named label) (k.count named label) where
  auth := alike.auth
  limits := alike.limits
  messages on := by
    have same := alike.messages on
    funext other
    simp only [Ledger.count, same]
  limited := alike.limited

theorem Alike.count_left (alike : Alike tenantId own counted l k) {named : TenantId}
    (apart : counted = true → named ≠ tenantId) (label : String) :
    Alike tenantId own counted (l.count named label) k where
  auth := alike.auth
  limits := alike.limits
  messages on := by
    funext other
    simp only [Ledger.count, (apart on).symm, false_and, if_false, Nat.add_zero, alike.messages on]
  limited := alike.limited

theorem Alike.refuse (alike : Alike tenantId own counted l k) (named : TenantId) :
    Alike tenantId own counted (l.refuse named) (k.refuse named) where
  auth := alike.auth
  limits := alike.limits
  messages := alike.messages
  limited on := by simp only [Ledger.refuse, alike.limited on]

theorem Alike.refuse_left (alike : Alike tenantId own counted l k) {named : TenantId}
    (apart : counted = true → named ≠ tenantId) : Alike tenantId own counted (l.refuse named) k where
  auth := alike.auth
  limits := alike.limits
  messages := alike.messages
  limited on := by
    simp only [Ledger.refuse, (apart on).symm, if_false, Nat.add_zero, alike.limited on]

theorem ne_of_reopened {closed : SessionId → Bool} {s q : SessionId}
    (stillOpen : Function.update closed s true q = false) : q ≠ s ∧ closed q = false := by
  rw [Function.update_apply] at stillOpen
  split at stillOpen
  · cases stillOpen
  · exact ⟨‹_›, stillOpen⟩

theorem Alike.drop (alike : Alike tenantId own counted l k) (s : SessionId) :
    Alike tenantId own counted (l.drop s) (k.drop s) where
  auth := alike.auth
  limits := (alike.limits.dropSession s).mono fun _ held =>
    ⟨held.1, (ne_of_reopened held.2.1).2, (ne_of_reopened held.2.2).2⟩
  messages := alike.messages
  limited := alike.limited

theorem Alike.drop_left (alike : Alike tenantId own counted l k) (s : SessionId) :
    Alike tenantId own counted (l.drop s) k where
  auth := alike.auth
  limits := (alike.limits.dropSession_left s).mono fun _ held =>
    ⟨⟨held.1, (ne_of_reopened held.2.1).2, held.2.2⟩, (ne_of_reopened held.2.1).1⟩
  messages := alike.messages
  limited := alike.limited

theorem Alike.charge (alike : Alike tenantId own counted l k) (s : SessionId) (named : TenantId)
    (now : Clock) : Alike tenantId own counted (l.charge s named now) (k.charge s named now) :=
  ⟨alike.auth, alike.limits.check s named now.instant, alike.messages, alike.limited⟩

theorem Alike.charge_left (alike : Alike tenantId own counted l k) {named : TenantId}
    (others : own s = false) (apart : named ≠ tenantId) (now : Clock) :
    Alike tenantId own counted (l.charge s named now) k where
  auth := alike.auth
  limits := by
    refine alike.limits.check_left (fun held => ?_) apart now.instant
    rw [others] at held
    cases held.1
  messages := alike.messages
  limited := alike.limited

theorem Alike.settle (alike : Alike tenantId own counted l k) (env : Env) (s : SessionId)
    (frame : Frame) (now : Clock) (allowed : Bool) :
    Alike tenantId own counted (l.settle env s frame now allowed) (k.settle env s frame now allowed) := by
  unfold Ledger.settle
  simp only [alike.auth]
  split
  · split
    · exact (alike.count _ _).drop s
    · exact alike.count _ _
  · exact alike.refuse _

theorem Alike.settle_left (alike : Alike tenantId own counted l k) (env : Env) (s : SessionId)
    {frame : Frame} (apart : counted = true → frame.tenantId ≠ tenantId) (now : Clock) (allowed : Bool) :
    Alike tenantId own counted (l.settle env s frame now allowed) k := by
  unfold Ledger.settle
  simp only
  split
  · split
    · exact (alike.count_left apart _).drop_left s
    · exact alike.count_left apart _
  · exact alike.refuse_left apart

theorem Alike.frame_left (alike : Alike tenantId own counted l k) (env : Env) {s : SessionId}
    {frame : Frame} (others : own s = false) (apart : frame.tenantId ≠ tenantId) (now : Clock) :
    Alike tenantId own counted (l.frame env s frame now) k :=
  (alike.charge_left others apart now).settle_left env s (fun _ => apart) now _

theorem Alike.frame (alike : Alike tenantId own counted l k) (env : Env) (s : SessionId)
    (frame : Frame) (now : Clock) (live : l.closed s = false) (live' : k.closed s = false)
    (mine : counted = true → frame.tenantId = tenantId → own s = true) :
    Alike tenantId own counted (l.frame env s frame now) (k.frame env s frame now) := by
  have charged := alike.charge s frame.tenantId now
  by_cases counts : counted = true ∧ frame.tenantId = tenantId
  · have allowed := alike.limits.allowed ⟨mine counts.1 counts.2, live, live'⟩ now.instant
    rw [← counts.2] at allowed
    unfold Ledger.frame
    rw [allowed]
    exact charged.settle env s frame now _
  · have apart : counted = true → frame.tenantId ≠ tenantId := fun on same => counts ⟨on, same⟩
    exact ((charged.settle_left env s apart now _).symm.settle_left env s apart now _).symm

theorem Alike.http (alike : Alike tenantId own counted l k) (env : Env) {request : HttpRequest}
    (named : request.tenantId = tenantId) (now : Clock) :
    Alike tenantId own counted (l.http env request now) (k.http env request now) := by
  subst named
  have charged : Alike request.tenantId own counted (l.chargeTenant request.tenantId now)
      (k.chargeTenant request.tenantId now) :=
    ⟨alike.auth, alike.limits.checkTenant now.instant, alike.messages, alike.limited⟩
  have allowed : (l.rateLimiter.checkTenant request.tenantId now.instant).1 =
      (k.rateLimiter.checkTenant request.tenantId now.instant).1 :=
    congrArg (fun tried : Bool × TokenBucket => tried.1) (alike.limits.tenantTry now.instant)
  unfold Ledger.http
  rw [alike.auth, allowed]
  simp only
  split
  · split
    · exact charged.count _ _
    · exact charged
  · exact alike

theorem Alike.http_left (alike : Alike tenantId own counted l k) (env : Env) {request : HttpRequest}
    (apart : request.tenantId ≠ tenantId) (now : Clock) :
    Alike tenantId own counted (l.http env request now) k := by
  have charged : Alike tenantId own counted (l.chargeTenant request.tenantId now) k :=
    ⟨alike.auth, alike.limits.checkTenant_left apart now.instant, alike.messages, alike.limited⟩
  unfold Ledger.http
  simp only
  split
  · split
    · exact charged.count_left (fun _ => apart) _
    · exact charged
  · exact alike

theorem Alike.admin (alike : Alike tenantId own counted l k) (op : AdminOp) :
    Alike tenantId own counted (l.admin op) (k.admin op) := by
  have keys : ∀ f : TokenService → TokenService,
      Alike tenantId own counted { l with auth := f l.auth } { k with auth := f k.auth } :=
    fun f => ⟨congrArg f alike.auth, alike.limits, alike.messages, alike.limited⟩
  cases op with
  | registerTenant named secret => exact keys (TokenService.registerTenant named secret)
  | revokeTenant named => exact keys (TokenService.revokeTenant named)
  | addExtraKey named publicKey secret => exact keys (TokenService.addExtraKey named publicKey secret)
  | revokeExtraKey named publicKey =>
      exact keys fun auth => (TokenService.revokeExtraKey named publicKey auth).2
  | setTenantLimits named config =>
      exact ⟨alike.auth, alike.limits.override named (some config), alike.messages, alike.limited⟩
  | clearTenantLimits named =>
      exact ⟨alike.auth, alike.limits.override named none, alike.messages, alike.limited⟩

theorem after_of_step {env : Env} {l l' : Ledger} {e : Event} (taken : Ledger.step env l e = some l') :
    l' = l.after env e ∧ ∀ s bytes now, e = .inbound s bytes now → l.closed s = false := by
  cases e with
  | inbound s bytes now =>
      simp only [Ledger.step] at taken
      split at taken
      · cases taken
      · rename_i live
        refine ⟨(Option.some.inj taken).symm, ?_⟩
        rintro _ _ _ ⟨⟩
        exact eq_false_of_ne_true live
  | _ =>
      refine ⟨(Option.some.inj taken).symm, ?_⟩
      rintro _ _ _ ⟨⟩

theorem names_of_parseSlice {bytes : List UInt8} {frame : Frame}
    (parsed : Frame.parseSlice bytes = .ok frame) :
    names tenantId bytes = decide (frame.tenantId = tenantId) := by
  simp [names, parsed, Except.toOption]

theorem Alike.after_left (alike : Alike tenantId own counted l k) (env : Env) {e : Event}
    (hidden : visible tenantId own e = false) : Alike tenantId own counted (l.after env e) k := by
  cases e with
  | inbound s bytes now =>
      obtain ⟨others, unnamed⟩ := Bool.or_eq_false_iff.mp hidden
      show Alike tenantId own counted (l.arrive env s bytes now) k
      unfold Ledger.arrive
      cases parsed : Frame.parseSlice bytes with
      | error err => exact alike
      | ok frame =>
          rw [names_of_parseSlice parsed] at unnamed
          exact alike.frame_left env others (of_decide_eq_false unnamed) now
  | disconnect s now => exact alike.drop_left s
  | http request now => exact alike.http_left env (of_decide_eq_false hidden) now
  | admin op => cases hidden
  | _ => exact alike

theorem Alike.after (alike : Alike tenantId own counted l k) (env : Env) {e : Event}
    (seen : visible tenantId own e = true) (mine : counted = true → authored tenantId own e = true)
    (live : ∀ s bytes now, e = .inbound s bytes now → l.closed s = false ∧ k.closed s = false) :
    Alike tenantId own counted (l.after env e) (k.after env e) := by
  cases e with
  | inbound s bytes now =>
      show Alike tenantId own counted (l.arrive env s bytes now) (k.arrive env s bytes now)
      unfold Ledger.arrive
      cases parsed : Frame.parseSlice bytes with
      | error err => exact alike
      | ok frame =>
          obtain ⟨left, right⟩ := live s bytes now rfl
          refine alike.frame env s frame now left right fun on named => ?_
          have sent := mine on
          simp only [authored, names_of_parseSlice parsed, named, decide_true, Bool.not_true,
            Bool.or_false] at sent
          exact sent
  | disconnect s now => exact alike.drop s
  | http request now => exact alike.http env (of_decide_eq_true seen) now
  | admin op => exact alike.admin op
  | _ => cases seen

theorem Alike.decision (alike : Alike tenantId own counted l k) {e : Event}
    (live : ∀ s bytes now, e = .inbound s bytes now → l.closed s = false ∧ k.closed s = false) :
    decision tenantId own l.rateLimiter e = decision tenantId own k.rateLimiter e := by
  cases e with
  | inbound s bytes now =>
      simp only [RateLimits.decision]
      by_cases mine : own s = true
      · rw [alike.limits.allowed ⟨mine, live s bytes now rfl⟩ now.instant]
      · simp [eq_false_of_ne_true mine]
  | _ => rfl

end

def machine (env : Env) (tenantId : TenantId) (own : SessionId → Bool) (counted : Bool) :
    Step Ledger Event :=
  fun l e => if counted = true → authored tenantId own e = true then Ledger.step env l e else none

def seen (tenantId : TenantId) (own : SessionId → Bool) : Ledger → Event → Option Event :=
  fun _ e => if visible tenantId own e then some e else none

section
variable {env : Env} {tenantId : TenantId} {own : SessionId → Bool} {counted : Bool}

theorem machine_eq_some {l l' : Ledger} {e : Event}
    (taken : machine env tenantId own counted l e = some l') :
    (counted = true → authored tenantId own e = true) ∧ Ledger.step env l e = some l' := by
  unfold machine at taken
  split at taken
  · exact ⟨‹_›, taken⟩
  · cases taken

theorem seen_eq_some {l : Ledger} {e d : Event} (view : seen tenantId own l e = some d) :
    e = d ∧ visible tenantId own d = true := by
  unfold seen at view
  split at view
  · obtain rfl := Option.some.inj view
    exact ⟨rfl, ‹_›⟩
  · cases view

theorem seen_eq_none {l : Ledger} {e : Event} (view : seen tenantId own l e = none) :
    visible tenantId own e = false := by
  unfold seen at view
  split at view
  · cases view
  · exact eq_false_of_ne_true ‹_›

theorem unwinds (env : Env) (tenantId : TenantId) (own : SessionId → Bool) (counted : Bool) :
    Step.Unwinds (machine env tenantId own counted) (seen tenantId own) (fun _ => True)
      (Alike tenantId own counted) where
  left alike _ _ view taken := by
    obtain ⟨rfl, _⟩ := after_of_step (machine_eq_some taken).2
    exact alike.after_left env (seen_eq_none view)
  right alike _ _ view taken := by
    obtain ⟨rfl, _⟩ := after_of_step (machine_eq_some taken).2
    exact (alike.symm.after_left env (seen_eq_none view)).symm
  both alike _ _ _ _ view view' taken taken' := by
    obtain ⟨mine, step⟩ := machine_eq_some taken
    obtain ⟨rfl, visible⟩ := seen_eq_some view
    obtain ⟨rfl, _⟩ := seen_eq_some view'
    obtain ⟨rfl, live⟩ := after_of_step step
    obtain ⟨rfl, live'⟩ := after_of_step (machine_eq_some taken').2
    exact alike.after env visible mine fun s bytes now same =>
      ⟨live s bytes now same, live' s bytes now same⟩

theorem reads (env : Env) (tenantId : TenantId) (own : SessionId → Bool) (counted : Bool) :
    Step.Reads (machine env tenantId own counted) (seen tenantId own)
      (fun l e => decision tenantId own l.rateLimiter e) (fun _ => True)
      (Alike tenantId own counted) where
  hidden {l e} view := by
    have unseen := seen_eq_none view
    cases e with
    | inbound s bytes now =>
        obtain ⟨others, _⟩ := Bool.or_eq_false_iff.mp unseen
        simp [decision, others]
    | _ => rfl
  same alike _ _ view view' taken taken' := by
    obtain ⟨rfl, _⟩ := seen_eq_some view
    obtain ⟨rfl, _⟩ := seen_eq_some view'
    obtain ⟨_, live⟩ := after_of_step (machine_eq_some taken).2
    obtain ⟨_, live'⟩ := after_of_step (machine_eq_some taken').2
    exact alike.decision fun s bytes now same => ⟨live s bytes now same, live' s bytes now same⟩

theorem machine_step {server server' : Server} {e : Event}
    (sent : counted = true → authored tenantId own e = true)
    (taken : step env server e = some server') :
    machine env tenantId own counted server.ledger e = some server'.ledger :=
  (if_pos sent).trans (step_ledger taken)

theorem decisions_eq {server server' : Server} {es : List Event}
    (sent : counted = true → ∀ e ∈ es, authored tenantId own e = true)
    (reached : (step env).run server es = some server') :
    decisions env tenantId own server es = (machine env tenantId own counted).observed
      (fun l e => decision tenantId own l.rateLimiter e) server.ledger es := by
  have along : ∀ e ∈ es, ∀ t t' : Server, step env t e = some t' →
      machine env tenantId own counted t.ledger e = some t'.ledger :=
    fun e member _ _ taken => machine_step (fun on => sent on e member) taken
  have mapped := Step.observed_map (fun l e => decision tenantId own l.rateLimiter e) along reached
  unfold decisions
  exact mapped

theorem run_machine {server server' : Server} {es : List Event}
    (sent : counted = true → ∀ e ∈ es, authored tenantId own e = true)
    (reached : (step env).run server es = some server') :
    (machine env tenantId own counted).run server.ledger es = some server'.ledger :=
  Step.run_map (fun e member _ _ taken => machine_step (fun on => sent on e member) taken) reached

theorem alike_of_runs {first server server' : Server} {es ds : List Event}
    (sent : counted = true → ∀ e ∈ es ++ ds, authored tenantId own e = true)
    (reached : (step env).run first es = some server)
    (reached' : (step env).run first ds = some server')
    (same : es.filter (visible tenantId own) = ds.filter (visible tenantId own)) :
    Alike tenantId own counted server.ledger server'.ledger ∧
      decisions env tenantId own first es = decisions env tenantId own first ds := by
  have left : counted = true → ∀ e ∈ es, authored tenantId own e = true :=
    fun on e member => sent on e (List.mem_append_left ds member)
  have right : counted = true → ∀ e ∈ ds, authored tenantId own e = true :=
    fun on e member => sent on e (List.mem_append_right es member)
  have ran := run_machine left reached
  have ran' := run_machine right reached'
  have views : (machine env tenantId own counted).observed (seen tenantId own) first.ledger es =
      (machine env tenantId own counted).observed (seen tenantId own) first.ledger ds := by
    have view := Step.observed_eq_filter (p := visible tenantId own) ran
    have view' := Step.observed_eq_filter (p := visible tenantId own) ran'
    exact view.trans (same.trans view'.symm)
  rw [decisions_eq left reached, decisions_eq right reached']
  exact (unwinds env tenantId own counted).run_reads (reads env tenantId own counted)
    (Alike.refl tenantId own counted first.ledger) (Step.throughout_true _ _ _)
    (Step.throughout_true _ _ _) ran ran' views

end

/-- Frames of sessions outside `own` that do not name the tenant leave its bucket and the decisions on
its own sessions alone, and its counters too where no session outside `own` names it. -/
theorem limits_kept {env : Env} {first server server' : Server} {es ds : List Event}
    {tenantId : TenantId} {own : SessionId → Bool}
    (reached : (step env).run first es = some server)
    (reached' : (step env).run first ds = some server')
    (same : es.filter (visible tenantId own) = ds.filter (visible tenantId own)) :
    server.ctx.rateLimiter.perTenant tenantId = server'.ctx.rateLimiter.perTenant tenantId ∧
      decisions env tenantId own first es = decisions env tenantId own first ds ∧
      ((∀ e ∈ es ++ ds, authored tenantId own e = true) →
        server.ctx.metrics.messagesTotal tenantId = server'.ctx.metrics.messagesTotal tenantId ∧
        server.ctx.metrics.rateLimitedTotal tenantId = server'.ctx.metrics.rateLimitedTotal tenantId) := by
  have bucket := alike_of_runs (fun on : false = true => by cases on) reached reached' same
  refine ⟨bucket.1.limits.tenant, bucket.2, fun sent => ?_⟩
  obtain ⟨alike, _⟩ := alike_of_runs (fun _ => sent) reached reached' same
  exact ⟨alike.messages rfl, alike.limited rfl⟩

section Sample
open SampleToken Sample

theorem names_spoofed (tenantId named : TenantId) :
    names tenantId (spoofed named).build.toList = decide (named = tenantId) :=
  names_of_parseSlice (Frame.parseSlice_raw (spoofedParsed named))

theorem limits_kept_spoofed :
    let server := signedIn false
    let server' := afterSpoofed tenantTwo (signedIn false)
    let own := fun s => decide (s = sessionOne)
    server.ctx.rateLimiter.perTenant tenantOne = server'.ctx.rateLimiter.perTenant tenantOne ∧
      decisions env tenantOne own (started false) signInEvents =
        decisions env tenantOne own (started false) (signInEvents ++ spoofedEvents tenantTwo) ∧
      server.ctx.metrics.messagesTotal tenantOne = server'.ctx.metrics.messagesTotal tenantOne ∧
      server.ctx.metrics.rateLimitedTotal tenantOne =
        server'.ctx.metrics.rateLimitedTotal tenantOne := by
  intro server server' own
  have spoof := run_spoofed tenantTwo (connections_signedIn false sessionTwo) (by decide +kernel)
  have reached := Step.run_append_iff.mpr ⟨_, run_signedIn false, spoof⟩
  have unseen : (spoofedEvents tenantTwo).filter (visible tenantOne own) = [] := by
    have apart : (decide (tenantTwo = tenantOne)) = false := by decide
    simp [spoofedEvents, visible, names_spoofed, apart, own, show sessionTwo ≠ sessionOne by decide]
  have same : signInEvents.filter (visible tenantOne own) =
      (signInEvents ++ spoofedEvents tenantTwo).filter (visible tenantOne own) := by
    rw [List.filter_append, unseen, List.append_nil]
  have kept := limits_kept (run_signedIn false) reached same
  refine ⟨kept.1, kept.2.1, kept.2.2 ?_⟩
  have apart : (decide (tenantTwo = tenantOne)) = false := by decide
  simp [signInEvents, spoofedEvents, authored, names_spoofed, apart, own]

theorem unauthenticated_set {server : Server} {ctx : RealtimeContext} {s q : SessionId} {c c' : Connection}
    (unknown : ∀ s c, server.connections s = some c → c.authenticatedTenant = none)
    (tenant : c'.authenticatedTenant = none)
    (found : ((server.setCtx ctx).setConnection q c').connections s = some c) :
    c.authenticatedTenant = none := by
  rw [connections_setConnection] at found
  split at found
  · exact Option.some.inj found ▸ tenant
  · exact unknown s c found

def sentByOthers (own : SessionId → Bool) : Event → Bool
  | .inbound s _ _ => !own s
  | _ => false

theorem bucket_spoofed :
    ¬ ∀ (env : Env) (config : RateLimitConfig) (timeout : Nat) (hasRedis hasWebPush : Bool)
      (tenantId : TenantId) (own : SessionId → Bool) (es ds : List Event) (server server' : Server),
      let first := start config timeout hasRedis hasWebPush
      (step env).run first es = some server → (step env).run first ds = some server' →
        (step env).Throughout (Owned tenantId own) first es →
        (step env).Throughout (Owned tenantId own) first ds →
        (es.filter fun e => !sentByOthers own e) = (ds.filter fun e => !sentByOthers own e) →
        server.ctx.rateLimiter.perTenant tenantId = server'.ctx.rateLimiter.perTenant tenantId ∧
          decisions env tenantId own first es = decisions env tenantId own first ds ∧
          server.ctx.metrics.messagesTotal tenantId = server'.ctx.metrics.messagesTotal tenantId ∧
          server.ctx.metrics.rateLimitedTotal tenantId =
            server'.ctx.metrics.rateLimitedTotal tenantId := by
  intro claim
  have allowed : ((started false).ctx.rateLimiter.check sessionTwo tenantOne epoch.instant).1 = true := by
    decide +kernel
  have spoof := @run_spoofed tenantOne (started false) rfl allowed
  have opened : step env (started false) (.connect sessionTwo .webSocket) =
      some (connected sessionTwo (started false)) := step_connected rfl
  have nobody : ∀ s c, (started false).connections s = some c → c.authenticatedTenant = none := by
    rintro s c ⟨⟩
  have newcomer : ∀ s c, (connected sessionTwo (started false)).connections s = some c →
      c.authenticatedTenant = none := fun s c found => unauthenticated_set nobody rfl found
  have stranger : ∀ s c, (afterSpoofed tenantOne (started false)).connections s = some c →
      c.authenticatedTenant = none := fun s c found => unauthenticated_set newcomer rfl found
  have owned : ∀ t : Server, (∀ s c, t.connections s = some c → c.authenticatedTenant = none) →
      Owned tenantOne (fun _ => false) t := by
    intro t unknown s c found tenant
    rw [unknown s c found] at tenant
    cases tenant
  have kept := claim env {} 30000000000 false false tenantOne (fun _ => false)
    [.connect sessionTwo .webSocket] (spoofedEvents tenantOne) _ _
    (Step.run_cons_iff.mpr ⟨_, opened, rfl⟩) spoof ?_ ?_ rfl
  · have bucket := kept.1
    change none = some _ at bucket
    cases bucket
  · refine ⟨owned _ nobody, fun t first => ?_⟩
    obtain rfl := Option.some.inj (opened.symm.trans first)
    exact owned _ newcomer
  · exact throughout_spoofed tenantOne rfl allowed (owned _ nobody) (owned _ newcomer)
      (owned _ stranger)

end Sample

end RealtimePlatform.Proof.RateLimits
