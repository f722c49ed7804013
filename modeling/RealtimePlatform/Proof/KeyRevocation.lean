import RealtimePlatform.Backend.KeyManagement
import RealtimePlatform.Proof.TokenValidity

namespace RealtimePlatform.Proof.KeyRevocation
open Library Backend Backend.TokenService

section Registration
variable (tenantId : TenantId) (secret : List UInt8)

def Registers (plane : KeyPlane) (e : KeyEvent) : Prop :=
  ∃ op, plane.operation e = some op ∧ op.Registers tenantId secret

def Retires (plane : KeyPlane) (e : KeyEvent) : Prop :=
  ∃ op, plane.operation e = some op ∧ secret ∈ plane.tokenService.activeSecrets tenantId ∧
    secret ∉ (plane.tokenService.apply op).activeSecrets tenantId

def Dead (demo : Option String) (es : List KeyEvent) : Prop :=
  (KeyPlane.step demo).SinceAt (Retires tenantId secret) (Registers tenantId secret)
    (KeyPlane.start demo) es

end Registration

/-- No token signed under a dead secret is valid, at any point of the run. -/
def Silenced (codec : TokenCodec) (demo : Option String) (es : List KeyEvent) : Prop :=
  ∀ ds plane, ds <+: es → (KeyPlane.step demo).run (KeyPlane.start demo) ds = some plane →
    ∀ tenantId secret, Dead tenantId secret demo ds → ∀ nowUnix token claims,
      SignedUnder codec token claims secret →
      validate codec plane.tokenService nowUnix tenantId token ≠ .ok claims

/-- Every secret that a new process would accept is accepted now. -/
def Covers (demo : Option String) (plane : KeyPlane) : Prop :=
  ∀ tenantId secret, secret ∈ (KeyPlane.boot demo plane.db).activeSecrets tenantId →
    secret ∈ plane.tokenService.activeSecrets tenantId

/-- The secret is accepted for the tenant at some point of the run. -/
def Accepted (tenantId : TenantId) (secret : List UInt8) (demo : Option String) (es : List KeyEvent) :
    Prop :=
  ∃ ds plane, ds <+: es ∧ (KeyPlane.step demo).run (KeyPlane.start demo) ds = some plane ∧
    secret ∈ plane.tokenService.activeSecrets tenantId

section
variable {demo : Option String} {plane : KeyPlane} {e : KeyEvent} {tenantId : TenantId}
  {secret : List UInt8}

theorem active_of_registers (registers : Registers tenantId secret plane e) :
    secret ∈ (plane.perform demo e).tokenService.activeSecrets tenantId := by
  obtain ⟨op, effect, registered⟩ := registers
  have kept : e ≠ .restart := by
    rintro rfl
    cases effect
  rw [KeyPlane.tokenService_perform kept, effect]
  exact mem_of_registers tenantId _ registered

theorem registers_of_active (kept : e ≠ .restart) (fresh : secret ∉ plane.tokenService.activeSecrets tenantId)
    (active : secret ∈ (plane.perform demo e).tokenService.activeSecrets tenantId) :
    Registers tenantId secret plane e := by
  rw [KeyPlane.tokenService_perform kept] at active
  cases effect : plane.operation e with
  | none =>
      rw [effect] at active
      exact absurd active fresh
  | some op =>
      rw [effect] at active
      rcases registers_or_mem tenantId active with registered | before
      · exact ⟨op, effect, registered⟩
      · exact absurd before fresh

theorem retires_of_inactive (kept : e ≠ .restart)
    (active : secret ∈ plane.tokenService.activeSecrets tenantId)
    (gone : secret ∉ (plane.perform demo e).tokenService.activeSecrets tenantId) :
    Retires tenantId secret plane e := by
  rw [KeyPlane.tokenService_perform kept] at gone
  cases effect : plane.operation e with
  | none =>
      rw [effect] at gone
      exact absurd active gone
  | some op =>
      rw [effect] at gone
      exact ⟨op, effect, active, gone⟩

end

section
variable {demo : Option String} {es : List KeyEvent} {plane : KeyPlane}

theorem active_or_dead (reached : (KeyPlane.step demo).run (KeyPlane.start demo) es = some plane)
    (tenantId : TenantId) (secret : List UInt8)
    (stored : secret ∈ (KeyPlane.boot demo plane.db).activeSecrets tenantId) :
    secret ∈ plane.tokenService.activeSecrets tenantId ∨ Dead tenantId secret demo es := by
  refine Step.run_induction
    (fun es (plane : KeyPlane) => secret ∈ (KeyPlane.boot demo plane.db).activeSecrets tenantId →
      secret ∈ plane.tokenService.activeSecrets tenantId ∨ Dead tenantId secret demo es)
    Or.inl ?_ reached stored
  intro es plane e next before held taken stored
  obtain rfl := Option.some.inj taken
  by_cases restarted : e = .restart
  · subst restarted
    exact Or.inl stored
  by_cases active : secret ∈ (plane.perform demo e).tokenService.activeSecrets tenantId
  · exact Or.inl active
  right
  unfold Dead
  rw [Step.sinceAt_concat before]
  rcases KeyPlane.mem_boot_perform tenantId stored with earlier | registers
  · rcases held earlier with accepted | dead
    · exact Or.inl (retires_of_inactive restarted accepted active)
    · exact Or.inr ⟨dead, fun registers => active (active_of_registers registers)⟩
  · exact absurd (active_of_registers registers) active

theorem not_active_of_dead (reached : (KeyPlane.step demo).run (KeyPlane.start demo) es = some plane)
    (met : (KeyPlane.step demo).Meets (fun plane e => e = .restart → Covers demo plane)
      (KeyPlane.start demo) es)
    {tenantId : TenantId} {secret : List UInt8} (dead : Dead tenantId secret demo es) :
    secret ∉ plane.tokenService.activeSecrets tenantId := by
  refine Step.run_induction
    (fun es (plane : KeyPlane) => (KeyPlane.step demo).Meets (fun plane e => e = .restart → Covers demo plane)
      (KeyPlane.start demo) es → Dead tenantId secret demo es →
      secret ∉ plane.tokenService.activeSecrets tenantId)
    (fun _ dead => absurd dead (Step.not_sinceAt_nil _ _ _ _)) ?_ reached met dead
  intro es plane e next before held taken met dead
  obtain rfl := Option.some.inj taken
  obtain ⟨earlier, now⟩ := (Step.meets_concat before).mp met
  rcases (Step.sinceAt_concat before).mp dead with ⟨op, effect, _, gone⟩ | ⟨old, unregistered⟩
  · have kept : e ≠ .restart := by
      rintro rfl
      cases effect
    rw [KeyPlane.tokenService_perform kept, effect]
    exact gone
  · have silent := held earlier old
    by_cases restarted : e = .restart
    · subst restarted
      exact fun active => silent (now rfl tenantId secret active)
    · exact fun active => unregistered (registers_of_active restarted silent active)

end

/-- Retired secrets stay silent in the runs whose restarts load nothing that memory had given up. -/
theorem silenced_iff {codec : TokenCodec} {encoder : TokenEncoder} (lawful : encoder.Lawful codec)
    (demo : Option String) (es : List KeyEvent)
    (apart : ∀ tenantId key other message, Accepted tenantId key demo es →
      Accepted tenantId other demo es → codec.mac key message = codec.mac other message → key = other) :
    Silenced codec demo es ↔ (KeyPlane.step demo).Meets (fun plane e => e = .restart → Covers demo plane)
      (KeyPlane.start demo) es := by
  constructor
  · intro silenced
    rw [Step.meets_iff_prefixes]
    rintro ds e plane short reached rfl tenantId secret stored
    rcases active_or_dead reached tenantId secret stored with active | dead
    · exact active
    have later : (KeyPlane.step demo).run (KeyPlane.start demo) (ds ++ [.restart]) =
        some (plane.restart demo) := Step.run_concat_iff.mpr ⟨plane, reached, rfl⟩
    have still : Dead tenantId secret demo (ds ++ [.restart]) := by
      refine (Step.sinceAt_concat reached).mpr (Or.inr ⟨dead, ?_⟩)
      rintro ⟨op, effect, _⟩
      cases effect
    have signed := signedUnder_sign lawful 0 tenantId "" 0 secret
    exact absurd (validate_of_signed signed stored (Nat.zero_le _))
      (silenced _ _ short later tenantId secret still 0 _ _ signed)
  · intro met ds plane short reached tenantId secret dead nowUnix token claims signed valid
    obtain ⟨rest, rfl⟩ := short
    have earlier := ((Step.meets_append reached).mp met).1
    obtain ⟨own, _, other, active, alike⟩ := validate_ok valid
    rw [own] at active
    obtain ⟨_, _, same⟩ := signed.agree alike
    have usedNow : Accepted tenantId other demo (ds ++ rest) :=
      ⟨ds, plane, List.prefix_append _ _, reached, active⟩
    have usedOnce : Accepted tenantId secret demo (ds ++ rest) := by
      obtain ⟨before, e, after, u, split, passed, ⟨_, _, accepted, _⟩, _⟩ := dead
      exact ⟨before, u, ⟨e :: after ++ rest, by simp [split]⟩, passed, accepted⟩
    obtain rfl := apart tenantId secret other _ usedOnce usedNow same
    exact not_active_of_dead reached earlier dead active

def Spares (key : ApiKey) : KeyEvent → Prop
  | .revokeApiKey tenantId keyId => tenantId = key.tenantId ∧ keyId ≠ key.id
  | .rotateMySecret tenantId _ _ | .rotateTenantSecret tenantId _ => tenantId = key.tenantId
  | _ => False

/-- The caller presents the secret of the key. -/
def requestWith (key : ApiKey) (sub : String) (ttlSecs : Option UInt64) : IssueTokenDto :=
  ⟨key.tenantId, key.secret, sub, ttlSecs⟩

section
variable (codec : TokenCodec) (demo : Option String) (plane : KeyPlane) (key : ApiKey) (issuedAt : Nat)

/-- Once the key is revoked, the token is not valid. -/
def StopsWith (token : String) : Prop :=
  ∀ es later revoked, (KeyPlane.step demo).run plane es = some later →
    later.revokeApiKey key.tenantId key.id = .ok revoked → ∀ nowUnix, issuedAt ≤ nowUnix →
    ∀ claims, validate codec revoked.tokenService nowUnix key.tenantId token ≠ .ok claims

/-- As long as only other keys are revoked and the primary secret is rotated, the token is valid. -/
def KeepsOtherwise (exp : Nat) (token : String) : Prop :=
  ∀ es later, (∀ e ∈ es, Spares key e) → (KeyPlane.step demo).run plane es = some later →
    ∀ nowUnix, issuedAt ≤ nowUnix → nowUnix ≤ exp →
    ∃ claims, validate codec later.tokenService nowUnix key.tenantId token = .ok claims

end

section
variable {codec : TokenCodec} {encoder : TokenEncoder} {plane : KeyPlane} {key : ApiKey} {issuedAt : Nat}
  {sub wsUrl : String} {ttlSecs : Option UInt64} {response : TokenResponse}

theorem not_stopsWith (lawful : encoder.Lawful codec) (demo : Option String)
    (stored : key ∈ plane.db.apiKeys) (active : key.isActive = true)
    (issued : issueClientToken codec encoder plane.tokenService issuedAt (requestWith key sub ttlSecs)
      wsUrl = .ok response)
    (small : issuedAt + (requestWith key sub ttlSecs).ttl < 2 ^ 64) :
    ¬ StopsWith codec demo plane key issuedAt response.token := by
  intro stops
  obtain ⟨primary, registered, signature⟩ := issueClientToken_ok issued
  obtain ⟨revoked, done⟩ := KeyPlane.revokeApiKey_of_active stored active
  have signed := signedUnder_sign lawful issuedAt key.tenantId sub (requestWith key sub ttlSecs).ttl primary
  have still : primary ∈ revoked.tokenService.activeSecrets key.tenantId := by
    obtain ⟨row, _, rfl⟩ := KeyPlane.revokeApiKey_ok done
    refine (mem_activeSecrets _).mpr (Or.inl ?_)
    exact (secrets_apply _ plane.tokenService (.revokeExtraKey _ _) primary).mpr
      (Or.inr ⟨registered, id⟩)
  have fresh : issuedAt ≤ expiry issuedAt (requestWith key sub ttlSecs).ttl := by
    rw [expiry, Nat.mod_eq_of_lt small]
    exact Nat.le_add_right _ _
  rw [signature] at stops
  exact stops [] plane revoked rfl done issuedAt le_rfl _ (validate_of_signed signed still fresh)

theorem expired_of_overflow {dto : IssueTokenDto} (late : 2 ^ 64 ≤ issuedAt + dto.ttl) :
    expiry issuedAt dto.ttl < issuedAt := by
  have bound := dto.ttl_lt
  unfold expiry
  omega

/-- What the endpoint returns for an extra key is bound to that key only when it is born expired. -/
theorem precise_iff (lawful : encoder.Lawful codec) (demo : Option String)
    (stored : key ∈ plane.db.apiKeys) (active : key.isActive = true)
    (issued : issueClientToken codec encoder plane.tokenService issuedAt (requestWith key sub ttlSecs)
      wsUrl = .ok response) :
    StopsWith codec demo plane key issuedAt response.token ∧
        KeepsOtherwise codec demo plane key issuedAt
          (expiry issuedAt (requestWith key sub ttlSecs).ttl) response.token ↔
      2 ^ 64 ≤ issuedAt + (requestWith key sub ttlSecs).ttl := by
  constructor
  · rintro ⟨stops, _⟩
    by_contra small
    exact not_stopsWith lawful demo stored active issued (Nat.lt_of_not_le small) stops
  · intro late
    have past := expired_of_overflow late
    obtain ⟨primary, _, signature⟩ := issueClientToken_ok issued
    refine ⟨fun es later revoked _ _ nowUnix after claims valid => ?_,
      fun es later _ _ nowUnix after before => ?_⟩
    · obtain ⟨_, fresh, secret, _, signed⟩ := validate_ok valid
      rw [signature] at signed
      obtain ⟨rfl, _⟩ := signed.agree (signedUnder_sign lawful issuedAt key.tenantId sub _ primary)
      exact absurd (after.trans fresh) (Nat.not_le.mpr past)
    · exact absurd (after.trans before) (Nat.not_le.mpr past)

end

namespace Sample
open SampleToken TokenValidity.Sample

theorem mac_injective {key other message : List UInt8}
    (same : libraries.mac key message = libraries.mac other message) : key = other := by
  have first : alice.sig.head? ≠ some 0 := by decide
  simp only [libraries] at same
  split at same <;> split at same
  · rename_i one two
    rw [one.1, two.1]
  · rw [same] at first
    exact absurd rfl first
  · rw [← same] at first
    exact absurd rfl first
  · exact (List.cons.inj same).2

def ciKey : ApiKey where
  id := ⟨[0, 0, 0, 0, 0, 0, 64, 0, 128, 0, 0, 0, 0, 0, 0, 5], rfl⟩
  tenantId := tenantOne
  name := "ci"
  publicKey := "pk_00000000000000000000000000000005"
  secret := "extra"
  isActive := true

def withKey : KeyPlane where
  tokenService := (TokenService.new.registerTenant tenantOne (utf8 "secret")).addExtraKey tenantOne
    ciKey.publicKey (utf8 ciKey.secret)
  db := ⟨∅, [ciKey]⟩

def request : IssueTokenDto := requestWith ciKey "a" (some 9)

def wsUrl : String := "wss://localhost:9001"

theorem utf8_secret : utf8 "secret" = secret := by
  have text : "secret" = String.ofList ['s', 'e', 'c', 'r', 'e', 't'] := rfl
  rw [text, utf8_ofList]
  decide

theorem utf8_ne {t : String} (apart : t ≠ "secret") : utf8 t ≠ secret := by
  intro same
  rw [← utf8_secret] at same
  exact apart (utf8_injective same)

theorem secrets_withKey : withKey.tokenService.secrets tenantOne = some secret := by
  have stored : withKey.tokenService.secrets tenantOne = some (utf8 "secret") := by
    simp [withKey, registerTenant, addExtraKey]
  rw [stored, utf8_secret]

theorem issued_withKey : issueClientToken libraries encoder withKey.tokenService 0 request wsUrl =
    .ok ⟨alice.text, 9, wsUrl⟩ := by
  have known : withKey.tokenService.verifyTenantSecret tenantOne (utf8 "extra") = true := by
    refine verifyTenantSecret_iff.mpr ((mem_activeSecrets _).mpr (Or.inr ?_))
    refine ⟨⟨ciKey.publicKey, utf8 ciKey.secret⟩, ?_, rfl⟩
    exact (mem_keys_apply tenantOne _ (.addExtraKey tenantOne _ _) _).mpr (Or.inl rfl)
  have token : withKey.tokenService.issueToken libraries encoder 0 tenantOne "a" 9 = .ok alice.text := by
    simp only [issueToken, secrets_withKey, sign_alice]
  have ttl : request.ttl = 9 := rfl
  have own : request.tenantId = tenantOne := rfl
  have secret : request.secret = "extra" := rfl
  have sub : request.sub = "a" := rfl
  simp [issueClientToken, own, secret, sub, ttl, known, token]

theorem rotated_withKey : (KeyPlane.step none).run withKey [.rotateMySecret tenantOne "another" true] =
    some (withKey.rotateMySecret tenantOne "another" true) := rfl

theorem secret_inactive : secret ∉
    (withKey.rotateMySecret tenantOne "another" true).tokenService.activeSecrets tenantOne := by
  intro active
  rcases (mem_activeSecrets _).mp active with primary | ⟨stored, there, bytes⟩
  · have now : (withKey.rotateMySecret tenantOne "another" true).tokenService.secrets tenantOne =
        some (utf8 "another") := by
      simp [KeyPlane.rotateMySecret, KeyPlane.registerAndStore, KeyPlane.registerTenant, registerTenant]
    exact utf8_ne (by decide) (Option.some.inj (now.symm.trans primary))
  · have only : stored = ⟨ciKey.publicKey, utf8 "extra"⟩ := by
      simpa [KeyPlane.rotateMySecret, KeyPlane.registerAndStore, KeyPlane.registerTenant, registerTenant,
        withKey, addExtraKey, ciKey, TokenService.new] using there
    rw [only] at bytes
    exact utf8_ne (by decide) bytes

theorem token_of_ciKey : issueClientToken libraries encoder withKey.tokenService 0 request wsUrl =
      .ok ⟨alice.text, 9, wsUrl⟩ ∧
    ¬ StopsWith libraries none withKey ciKey 0 alice.text ∧
    ¬ KeepsOtherwise libraries none withKey ciKey 0 9 alice.text := by
  refine ⟨issued_withKey, ?_, ?_⟩
  · have small : 0 + request.ttl < 2 ^ 64 := by decide
    have stored : ciKey ∈ withKey.db.apiKeys := List.mem_singleton.mpr rfl
    have broken := not_stopsWith lawful none stored rfl issued_withKey small
    exact broken
  · intro keeps
    have spared : ∀ e ∈ [KeyEvent.rotateMySecret tenantOne "another" true], Spares ciKey e := by
      intro e member
      rw [List.mem_singleton.mp member]
      exact rfl
    obtain ⟨claims, valid⟩ := keeps _ _ spared rotated_withKey 0 le_rfl (Nat.zero_le _)
    obtain ⟨own, _, key, active, signed⟩ := validate_ok valid
    have same := signedUnder_sign lawful 0 tenantOne "a" 9 secret
    rw [sign_alice] at same
    obtain ⟨_, message, alike⟩ := signed.agree same
    rw [mac_injective alike, own] at active
    exact secret_inactive active

theorem precise_iff_ciKey : ¬ (StopsWith libraries none withKey ciKey 0 alice.text ∧
    KeepsOtherwise libraries none withKey ciKey 0 (expiry 0 request.ttl) alice.text) := by
  have stored : ciKey ∈ withKey.db.apiKeys := List.mem_singleton.mpr rfl
  have iff := precise_iff lawful none stored rfl issued_withKey
  exact fun precise => absurd (iff.mp precise) (by decide)

def owner : TenantId :=
  ⟨[0x3b, 0x1f, 0x0c, 0x72, 0x5d, 0x9e, 0x4a, 0x61, 0x8c, 0x04, 0xd7, 0x2b, 0x90, 0x6e, 0x13, 0xfa], rfl⟩

def comeback : List KeyEvent :=
  [.signup owner "kV3xJ0m8qT5nZ2rY7wLdP1sAhC6uGfEoB9iXaQeRtMw" true, .revokeTenant owner, .restart]

theorem not_silenced_comeback : ¬ Silenced libraries none comeback := by
  intro silenced
  let signup : KeyEvent := .signup owner "kV3xJ0m8qT5nZ2rY7wLdP1sAhC6uGfEoB9iXaQeRtMw" true
  let secret : List UInt8 := utf8 "kV3xJ0m8qT5nZ2rY7wLdP1sAhC6uGfEoB9iXaQeRtMw"
  let signedUp : KeyPlane := (KeyPlane.start none).perform none signup
  have before : secret ∈ signedUp.tokenService.activeSecrets owner :=
    active_of_registers ⟨_, rfl, rfl, rfl⟩
  have dead : Dead owner secret none comeback := by
    refine ⟨[signup], .revokeTenant owner, [.restart], signedUp, rfl, rfl, ⟨_, rfl, before, ?_⟩, ?_⟩
    · rw [TokenService.apply, activeSecrets_revokeTenant]
      exact List.not_mem_nil
    · intro mid d rest u split _
      have last : d = .restart := by
        have member : d ∈ [KeyEvent.restart] := split ▸ List.mem_append_right _ List.mem_cons_self
        exact List.mem_singleton.mp member
      rintro ⟨op, effect, _⟩
      rw [last] at effect
      cases effect
  have back : secret ∈ (KeyPlane.boot none (signedUp.revokeTenant owner).db).activeSecrets owner :=
    (KeyPlane.mem_boot owner).mpr (Or.inl rfl)
  have signed := signedUnder_sign lawful 0 owner "" 0 secret
  exact silenced comeback _ List.prefix_rfl rfl owner secret dead 0 _ _ signed
    (validate_of_signed signed back (Nat.zero_le _))

theorem silenced_iff_admin : Silenced libraries none
    [.createTenant owner "first", .revokeTenant owner, .restart, .createTenant owner "second"] := by
  refine (silenced_iff lawful none _ fun _ _ _ _ _ _ same => mac_injective same).mpr ?_
  have nothing : Covers none ((KeyPlane.start none).createTenant owner "first" |>.revokeTenant owner) :=
    fun _ _ stored => absurd stored List.not_mem_nil
  refine ⟨nofun, ?_⟩
  rintro _ ⟨⟩
  refine ⟨nofun, ?_⟩
  rintro _ ⟨⟩
  refine ⟨fun _ => nothing, ?_⟩
  rintro _ ⟨⟩
  exact ⟨nofun, fun _ _ => trivial⟩

end Sample

end RealtimePlatform.Proof.KeyRevocation
