import RealtimePlatform.Proof.KeyRevocation

namespace RealtimePlatform.Proof.TokenExpiry
open Library Backend TokenService

/-- The token says that it lasts for as long as it was asked to, and does. -/
structure Lasts (codec : TokenCodec) (auth : TokenService) (tenantId : TenantId) (sub : String)
    (issuedAt ttlSecs : Nat) (token : String) : Prop where
  exp : ∃ secret, SignedUnder codec token ⟨tenantId, sub, issuedAt + ttlSecs⟩ secret
  until_then : ∀ t, issuedAt ≤ t → t ≤ issuedAt + ttlSecs →
    auth.validate codec t tenantId token = .ok ⟨tenantId, sub, issuedAt + ttlSecs⟩
  no_longer : ∀ t, issuedAt + ttlSecs < t → ∀ claims, auth.validate codec t tenantId token ≠ .ok claims

section
variable {codec : TokenCodec} {encoder : TokenEncoder} {auth : TokenService} {tenantId : TenantId}
  {sub token : String} {issuedAt ttlSecs : Nat} {secret : List UInt8}

theorem exp_of_lasts (lawful : encoder.Lawful codec)
    (lasts : Lasts codec auth tenantId sub issuedAt ttlSecs
      (sign codec encoder issuedAt tenantId sub ttlSecs secret)) : issuedAt + ttlSecs < 2 ^ 64 := by
  obtain ⟨other, signed⟩ := lasts.exp
  have same := (signed.agree (signedUnder_sign lawful issuedAt tenantId sub ttlSecs secret)).1
  have exp : issuedAt + ttlSecs = expiry issuedAt ttlSecs := congrArg Claims.exp same
  rw [exp]
  exact expiry_lt issuedAt ttlSecs

theorem lasts_of_small (lawful : encoder.Lawful codec) (stored : auth.secrets tenantId = some secret)
    (small : issuedAt + ttlSecs < 2 ^ 64) :
    Lasts codec auth tenantId sub issuedAt ttlSecs (sign codec encoder issuedAt tenantId sub ttlSecs secret) := by
  have signed := signedUnder_sign lawful issuedAt tenantId sub ttlSecs secret
  rw [expiry, Nat.mod_eq_of_lt small] at signed
  have active : secret ∈ auth.activeSecrets tenantId := List.mem_append_left _ (by simp [stored])
  refine ⟨⟨secret, signed⟩, fun t _ early => validate_of_signed signed active early, fun t late claims valid => ?_⟩
  obtain ⟨-, fresh, key, -, own⟩ := validate_ok valid
  have same := (own.agree signed).1
  subst same
  exact absurd fresh (Nat.not_le.mpr late)

/-- What either endpoint issues lasts as long as was asked for exactly when the expiry fits 64 bits. -/
theorem lasts_iff (lawful : encoder.Lawful codec) :
    (∀ (issuedAt : Nat) (dto : IssueTokenDto) (wsUrl : String) (response : TokenResponse),
      issueClientToken codec encoder auth issuedAt dto wsUrl = .ok response →
        (Lasts codec auth dto.tenantId dto.sub issuedAt response.expiresIn response.token ↔
          issuedAt + dto.ttl < 2 ^ 64)) ∧
    (∀ (issuedAt : Nat) (tenantId : TenantId) (dto : AdminMintTokenDto) (token : String),
      mintTenantToken codec encoder auth issuedAt tenantId dto = .ok token →
        (Lasts codec auth tenantId dto.sub issuedAt dto.ttl token ↔ issuedAt + dto.ttl < 2 ^ 64)) := by
  constructor
  · intro issuedAt dto wsUrl response issued
    obtain ⟨primary, stored, token⟩ := issueClientToken_ok issued
    rw [expiresIn_eq issued, token]
    exact ⟨exp_of_lasts lawful, lasts_of_small lawful stored⟩
  · intro issuedAt tenantId dto token minted
    obtain ⟨primary, stored, rfl⟩ := mintTenantToken_ok minted
    exact ⟨exp_of_lasts lawful, lasts_of_small lawful stored⟩

end

section
open SampleToken TokenValidity.Sample KeyRevocation.Sample

def endless : AdminMintTokenDto := ⟨"a", some 18446744073709551615⟩

theorem minted_endless : mintTenantToken libraries encoder withKey.tokenService 1 tenantOne endless =
    .ok (sign libraries encoder 1 tenantOne "a" endless.ttl secret) := by
  rw [mintTenantToken, issueToken, secrets_withKey]
  rfl

theorem lasts_iff_withKey :
    (Lasts libraries withKey.tokenService tenantOne "a" 0 9 alice.text ↔ 0 + request.ttl < 2 ^ 64) ∧
    (Lasts libraries withKey.tokenService tenantOne "a" 1 endless.ttl
        (sign libraries encoder 1 tenantOne "a" endless.ttl secret) ↔ 1 + endless.ttl < 2 ^ 64) :=
  ⟨(lasts_iff lawful).1 0 request wsUrl _ issued_withKey, (lasts_iff lawful).2 1 tenantOne endless _ minted_endless⟩

theorem not_lasts_endless : ¬ ∀ (codec : TokenCodec) (encoder : TokenEncoder) (auth : TokenService) (issuedAt : Nat)
    (tenantId : TenantId) (dto : AdminMintTokenDto) (token : String), encoder.Lawful codec →
      mintTenantToken codec encoder auth issuedAt tenantId dto = .ok token →
        Lasts codec auth tenantId dto.sub issuedAt dto.ttl token := by
  intro claim
  have lasts := claim libraries encoder withKey.tokenService 1 tenantOne endless _ lawful minted_endless
  have small := exp_of_lasts lawful lasts
  have long : endless.ttl = 18446744073709551615 := rfl
  omega

end

end RealtimePlatform.Proof.TokenExpiry
