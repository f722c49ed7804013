import RealtimePlatform.Backend.Entities
import Mathlib.Logic.Function.Basic

/-!
# Token validation

Base64, JSON and HMAC-SHA256 come from libraries and are the fields of a `TokenCodec`; the registries
and the order of the checks are those of `TokenService::validate`.
-/

namespace RealtimePlatform.Backend
open Library

structure TokenCodec where
  decode : String → Option (List UInt8)
  fromSlice : List UInt8 → Option Claims
  mac : List UInt8 → List UInt8 → List UInt8

inductive AuthError where
  | malformed
  | unknownTenant (tenantId : TenantId)
  | badSignature
  | expired
  | tenantMismatch (token requested : TenantId)
  deriving DecidableEq

structure StoredKey where
  publicKey : String
  secret : List UInt8

structure TokenService where
  secrets : TenantId → Option (List UInt8)
  keys : TenantId → Option (List StoredKey)

/-- The text before the first `c` and the text after it. -/
def splitOnce (c : Char) (s : String) : Option (String × String) :=
  match s.toList.span (· != c) with
  | (_, []) => none
  | (before, _ :: after) => some (String.ofList before, String.ofList after)

theorem splitOnce_ofList {c : Char} {before : List Char} (after : List Char) (absent : c ∉ before) :
    splitOnce c (String.ofList (before ++ c :: after)) =
      some (String.ofList before, String.ofList after) := by
  have cut : (before ++ c :: after).span (· != c) = (before, c :: after) := by
    induction before with
    | nil => simp [List.span, List.span.loop]
    | cons d l ih =>
        have other : (d != c) = true := by
          rw [bne_iff_ne]
          rintro rfl
          exact absent List.mem_cons_self
        have rest := ih fun member => absent (List.mem_cons_of_mem d member)
        rw [List.span_eq_takeWhile_dropWhile] at rest ⊢
        simpa [other] using rest
  simp only [splitOnce, String.toList_ofList, cut]

namespace TokenService

def new : TokenService := ⟨fun _ => none, fun _ => none⟩

def registerTenant (tenantId : TenantId) (secret : List UInt8) (auth : TokenService) : TokenService :=
  { auth with secrets := Function.update auth.secrets tenantId (some secret) }

def revokeTenant (tenantId : TenantId) (auth : TokenService) : TokenService where
  secrets := Function.update auth.secrets tenantId none
  keys := Function.update auth.keys tenantId none

def addExtraKey (tenantId : TenantId) (publicKey : String) (secret : List UInt8)
    (auth : TokenService) : TokenService :=
  { auth with
    keys := Function.update auth.keys tenantId
      (some ((auth.keys tenantId).getD [] ++ [⟨publicKey, secret⟩])) }

def revokeExtraKey (tenantId : TenantId) (publicKey : String) (auth : TokenService) :
    Bool × TokenService :=
  match auth.keys tenantId with
  | none => (false, auth)
  | some entries =>
    let kept := entries.filter (·.publicKey != publicKey)
    (kept.length != entries.length, { auth with keys := Function.update auth.keys tenantId (some kept) })

def getAllSecrets (auth : TokenService) (tenantId : TenantId) : List (List UInt8) :=
  ((auth.keys tenantId).getD []).map (·.secret)

def validate (codec : TokenCodec) (auth : TokenService) (nowUnix : Nat) (expectedTenant : TenantId)
    (token : String) : Except AuthError Claims :=
  match splitOnce '.' token with
  | none => .error .malformed
  | some (payloadB64, sigB64) =>
  match (codec.decode payloadB64).bind codec.fromSlice with
  | none => .error .malformed
  | some claims =>
  let primary := auth.secrets claims.tenantId
  let extras := auth.getAllSecrets claims.tenantId
  if primary.isNone && extras.isEmpty then .error (.unknownTenant claims.tenantId)
  else match codec.decode sigB64 with
  | none => .error .malformed
  | some sig =>
  let verifiesWith := fun secret => codec.mac secret (utf8 payloadB64) == sig
  if !(primary.any verifiesWith || extras.any verifiesWith) then .error .badSignature
  else if claims.exp < nowUnix then .error .expired
  else if claims.tenantId ≠ expectedTenant then
    .error (.tenantMismatch claims.tenantId expectedTenant)
  else .ok claims

/-- The secrets under which a token of the tenant is accepted. -/
def activeSecrets (auth : TokenService) (tenantId : TenantId) : List (List UInt8) :=
  (auth.secrets tenantId).toList ++ auth.getAllSecrets tenantId

/-- `token` carries `claims` and a signature of its payload under `secret`. -/
def SignedUnder (codec : TokenCodec) (token : String) (claims : Claims) (secret : List UInt8) : Prop :=
  ∃ payloadB64 sigB64 payload, splitOnce '.' token = some (payloadB64, sigB64) ∧
    codec.decode payloadB64 = some payload ∧ codec.fromSlice payload = some claims ∧
    codec.decode sigB64 = some (codec.mac secret (utf8 payloadB64))

theorem SignedUnder.agree {codec : TokenCodec} {token : String} {claims claims' : Claims}
    {secret secret' : List UInt8} (one : SignedUnder codec token claims secret)
    (two : SignedUnder codec token claims' secret') :
    claims = claims' ∧ ∃ message, codec.mac secret message = codec.mac secret' message := by
  obtain ⟨payloadB64, sigB64, payload, halves, decoded, parsed, signature⟩ := one
  obtain ⟨payloadB64', sigB64', payload', halves', decoded', parsed', signature'⟩ := two
  obtain ⟨rfl, rfl⟩ := Prod.mk.inj (Option.some.inj (halves.symm.trans halves'))
  obtain rfl := Option.some.inj (decoded.symm.trans decoded')
  exact ⟨Option.some.inj (parsed.symm.trans parsed'), _, Option.some.inj (signature.symm.trans signature')⟩

theorem validate_ok {codec : TokenCodec} {auth : TokenService} {nowUnix : Nat}
    {expectedTenant : TenantId} {token : String} {claims : Claims}
    (valid : validate codec auth nowUnix expectedTenant token = .ok claims) :
    claims.tenantId = expectedTenant ∧ nowUnix ≤ claims.exp ∧
      ∃ secret ∈ auth.activeSecrets claims.tenantId, SignedUnder codec token claims secret := by
  unfold validate at valid
  split at valid
  · cases valid
  rename_i payloadB64 sigB64 halves
  split at valid
  · cases valid
  rename_i decoded
  obtain ⟨payload, bytes, parsed⟩ := Option.bind_eq_some_iff.mp decoded
  simp only at valid
  split at valid
  · cases valid
  split at valid
  · cases valid
  rename_i sig signature
  split at valid
  · cases valid
  rename_i verified
  split at valid
  · cases valid
  rename_i fresh
  split at valid
  · cases valid
  rename_i tenants
  cases valid
  refine ⟨not_not.mp tenants, Nat.le_of_not_lt fresh, ?_⟩
  have signed : ∀ secret, (codec.mac secret (utf8 payloadB64) == sig) = true →
      SignedUnder codec token claims secret := fun secret matching =>
    ⟨payloadB64, sigB64, payload, halves, bytes, parsed, by rw [signature, eq_of_beq matching]⟩
  have either : (auth.secrets claims.tenantId).any
        (fun secret => codec.mac secret (utf8 payloadB64) == sig) = true ∨
      (auth.getAllSecrets claims.tenantId).any
        (fun secret => codec.mac secret (utf8 payloadB64) == sig) = true := by
    rw [Bool.not_eq_true, Bool.not_eq_false', Bool.or_eq_true] at verified
    exact verified
  rcases either with primary | extra
  · obtain ⟨secret, stored, matching⟩ := (Option.any_eq_true _ _).mp primary
    exact ⟨secret, List.mem_append_left _ (by simp [stored]), signed secret matching⟩
  · obtain ⟨secret, stored, matching⟩ := List.any_eq_true.mp extra
    exact ⟨secret, List.mem_append_right _ stored, signed secret matching⟩

theorem validate_of_signed {codec : TokenCodec} {auth : TokenService} {nowUnix : Nat} {token : String}
    {claims : Claims} {secret : List UInt8} (signed : SignedUnder codec token claims secret)
    (active : secret ∈ auth.activeSecrets claims.tenantId) (fresh : nowUnix ≤ claims.exp) :
    validate codec auth nowUnix claims.tenantId token = .ok claims := by
  obtain ⟨payloadB64, sigB64, payload, halves, decoded, parsed, signature⟩ := signed
  have verified : (auth.secrets claims.tenantId).any
        (fun key => codec.mac key (utf8 payloadB64) == codec.mac secret (utf8 payloadB64)) = true ∨
      (auth.getAllSecrets claims.tenantId).any
        (fun key => codec.mac key (utf8 payloadB64) == codec.mac secret (utf8 payloadB64)) = true := by
    rcases List.mem_append.mp active with primary | extra
    · rw [Option.mem_toList] at primary
      exact Or.inl (by simp [Option.mem_def.mp primary])
    · exact Or.inr (List.any_eq_true.mpr ⟨secret, extra, beq_self_eq_true _⟩)
  have known : ((auth.secrets claims.tenantId).isNone &&
      (auth.getAllSecrets claims.tenantId).isEmpty) = false := by
    rcases List.mem_append.mp active with primary | extra
    · rw [Option.mem_toList] at primary
      simp [Option.mem_def.mp primary]
    · simp [List.ne_nil_of_mem extra]
  simp only [validate, halves, decoded, Option.bind_some, parsed, known, signature]
  rw [← Bool.or_eq_true] at verified
  simp [verified, Nat.not_lt.mpr fresh]

end TokenService
end RealtimePlatform.Backend
