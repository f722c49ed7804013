import RealtimePlatform.Backend.TokenService
import RealtimePlatform.Library.Transition

/-!
# Secrets over time, and the tokens issued under them

The two stores of a `TokenService` together hold the secrets that are active. Which these are is said
twice: by the stores after a history of operations, and by the history alone.
-/

namespace RealtimePlatform.Backend
open Library

/-- The encoders of the libraries that `TokenCodec` decodes with. -/
structure TokenEncoder where
  encode : List UInt8 → String
  toVec : Claims → List UInt8

/-- Base64url without padding and JSON are read back, and the alphabet of the former has no dot. -/
structure TokenEncoder.Lawful (encoder : TokenEncoder) (codec : TokenCodec) : Prop where
  decode_encode : ∀ bytes, codec.decode (encoder.encode bytes) = some bytes
  fromSlice_toVec : ∀ claims, claims.exp < 2 ^ 64 → codec.fromSlice (encoder.toVec claims) = some claims
  alphabet : ∀ bytes, '.' ∉ (encoder.encode bytes).toList

namespace TokenService

-- The sum wraps as a `u64` of the release build does.
def expiry (nowUnix ttlSecs : Nat) : Nat := (nowUnix + ttlSecs) % 2 ^ 64

def sign (codec : TokenCodec) (encoder : TokenEncoder) (nowUnix : Nat) (tenantId : TenantId) (sub : String)
    (ttlSecs : Nat) (secret : List UInt8) : String :=
  let payloadB64 := encoder.encode (encoder.toVec ⟨tenantId, sub, expiry nowUnix ttlSecs⟩)
  payloadB64 ++ "." ++ encoder.encode (codec.mac secret (utf8 payloadB64))

def issueToken (codec : TokenCodec) (encoder : TokenEncoder) (auth : TokenService) (nowUnix : Nat)
    (tenantId : TenantId) (sub : String) (ttlSecs : Nat) : Except AuthError String :=
  match auth.secrets tenantId with
  | none => .error (.unknownTenant tenantId)
  | some secret => .ok (sign codec encoder nowUnix tenantId sub ttlSecs secret)

def findMatching (auth : TokenService) (tenantId : TenantId) (secret : List UInt8) : Option (List UInt8) :=
  (auth.keys tenantId).bind fun entries => (entries.find? (·.secret == secret)).map (·.secret)

def findValidSecret (auth : TokenService) (tenantId : TenantId) (secret : List UInt8) :
    Option (List UInt8) :=
  if auth.secrets tenantId = some secret then some secret else auth.findMatching tenantId secret

def verifyTenantSecret (auth : TokenService) (tenantId : TenantId) (secret : List UInt8) : Bool :=
  (auth.findValidSecret tenantId secret).isSome

theorem expiry_lt (nowUnix ttlSecs : Nat) : expiry nowUnix ttlSecs < 2 ^ 64 :=
  Nat.mod_lt _ (Nat.two_pow_pos 64)

theorem signedUnder_sign {codec : TokenCodec} {encoder : TokenEncoder} (lawful : encoder.Lawful codec)
    (nowUnix : Nat) (tenantId : TenantId) (sub : String) (ttlSecs : Nat) (secret : List UInt8) :
    SignedUnder codec (sign codec encoder nowUnix tenantId sub ttlSecs secret)
      ⟨tenantId, sub, expiry nowUnix ttlSecs⟩ secret := by
  have halves : ∀ before after : String, '.' ∉ before.toList →
      splitOnce '.' (before ++ "." ++ after) = some (before, after) := by
    intro before after absent
    have text : before ++ "." ++ after = String.ofList (before.toList ++ '.' :: after.toList) := by
      apply String.toList_inj.mp
      simp [String.toList_append]
    rw [text, splitOnce_ofList after.toList absent, String.ofList_toList, String.ofList_toList]
  exact ⟨_, _, _, halves _ _ (lawful.alphabet _), lawful.decode_encode _,
    lawful.fromSlice_toVec _ (expiry_lt nowUnix ttlSecs), lawful.decode_encode _⟩

theorem verifyTenantSecret_iff {auth : TokenService} {tenantId : TenantId} {secret : List UInt8} :
    auth.verifyTenantSecret tenantId secret = true ↔ secret ∈ auth.activeSecrets tenantId := by
  unfold verifyTenantSecret findValidSecret activeSecrets
  rw [List.mem_append, Option.mem_toList]
  split
  · rename_i primary
    exact iff_of_true rfl (Or.inl primary)
  · rename_i other
    rw [or_iff_right other]
    unfold findMatching getAllSecrets
    cases auth.keys tenantId with
    | none => simp
    | some entries =>
        simp only [Option.bind_some, Option.isSome_map, List.find?_isSome, beq_iff_eq,
          Option.getD_some, List.mem_map]

end TokenService

inductive KeyOp where
  | registerTenant (tenantId : TenantId) (secret : List UInt8)
  | revokeTenant (tenantId : TenantId)
  | addExtraKey (tenantId : TenantId) (publicKey : String) (secret : List UInt8)
  | revokeExtraKey (tenantId : TenantId) (publicKey : String)

namespace KeyOp

def tenantId : KeyOp → TenantId
  | registerTenant tenantId _ | revokeTenant tenantId | addExtraKey tenantId _ _
  | revokeExtraKey tenantId _ => tenantId

def EndsPrimary (tenant : TenantId) : KeyOp → Prop
  | registerTenant tenantId _ | revokeTenant tenantId => tenantId = tenant
  | _ => False

def EndsExtra (tenant : TenantId) (key : String) : KeyOp → Prop
  | revokeTenant tenantId => tenantId = tenant
  | revokeExtraKey tenantId publicKey => tenantId = tenant ∧ publicKey = key
  | _ => False

def Registers (tenant : TenantId) (secret : List UInt8) : KeyOp → Prop
  | registerTenant tenantId registered => tenantId = tenant ∧ registered = secret
  | addExtraKey tenantId _ added => tenantId = tenant ∧ added = secret
  | _ => False

end KeyOp

namespace TokenService

def apply (auth : TokenService) : KeyOp → TokenService
  | .registerTenant tenantId secret => auth.registerTenant tenantId secret
  | .revokeTenant tenantId => auth.revokeTenant tenantId
  | .addExtraKey tenantId publicKey secret => auth.addExtraKey tenantId publicKey secret
  | .revokeExtraKey tenantId publicKey => (auth.revokeExtraKey tenantId publicKey).2

def after (ops : List KeyOp) : TokenService := ops.foldl apply new

/-- The secret was registered last and not revoked since, or is that of an extra key not revoked since. -/
def Active (ops : List KeyOp) (tenantId : TenantId) (secret : List UInt8) : Prop :=
  Step.Since (· = .registerTenant tenantId secret) (KeyOp.EndsPrimary tenantId) ops ∨
    ∃ publicKey, Step.Since (· = .addExtraKey tenantId publicKey secret)
      (KeyOp.EndsExtra tenantId publicKey) ops

theorem after_concat (ops : List KeyOp) (op : KeyOp) : after (ops ++ [op]) = (after ops).apply op := by
  rw [after, List.foldl_append]
  rfl

section
variable (tenantId : TenantId)

theorem secrets_apply (auth : TokenService) (op : KeyOp) (secret : List UInt8) :
    (auth.apply op).secrets tenantId = some secret ↔
      op = .registerTenant tenantId secret ∨
        auth.secrets tenantId = some secret ∧ ¬ op.EndsPrimary tenantId := by
  cases op with
  | registerTenant other registered =>
      by_cases same : other = tenantId
      · subst same
        simp [apply, registerTenant, KeyOp.EndsPrimary]
      · simp [apply, registerTenant, KeyOp.EndsPrimary, same, Function.update_of_ne (Ne.symm same)]
  | revokeTenant other =>
      by_cases same : other = tenantId
      · subst same
        simp [apply, revokeTenant, KeyOp.EndsPrimary]
      · simp [apply, revokeTenant, KeyOp.EndsPrimary, same, Function.update_of_ne (Ne.symm same)]
  | addExtraKey other publicKey added => simp [apply, addExtraKey, KeyOp.EndsPrimary]
  | revokeExtraKey other publicKey =>
      have kept : (auth.revokeExtraKey other publicKey).2.secrets = auth.secrets := by
        unfold revokeExtraKey
        split <;> rfl
      simp [apply, kept, KeyOp.EndsPrimary]

theorem keys_revokeExtraKey (auth : TokenService) (other : TenantId) (publicKey : String) :
    ((auth.revokeExtraKey other publicKey).2.keys tenantId).getD [] =
      if other = tenantId then ((auth.keys tenantId).getD []).filter (·.publicKey != publicKey)
      else (auth.keys tenantId).getD [] := by
  unfold revokeExtraKey
  by_cases same : other = tenantId
  · subst same
    cases there : auth.keys other <;> simp [there]
  · cases auth.keys other <;> simp [same, Function.update_of_ne (Ne.symm same)]

theorem mem_keys_apply (auth : TokenService) (op : KeyOp) (key : StoredKey) :
    key ∈ ((auth.apply op).keys tenantId).getD [] ↔
      op = .addExtraKey tenantId key.publicKey key.secret ∨
        key ∈ (auth.keys tenantId).getD [] ∧ ¬ op.EndsExtra tenantId key.publicKey := by
  cases op with
  | registerTenant other registered => simp [apply, registerTenant, KeyOp.EndsExtra]
  | revokeTenant other =>
      by_cases same : other = tenantId
      · subst same
        simp [apply, revokeTenant, KeyOp.EndsExtra]
      · simp [apply, revokeTenant, KeyOp.EndsExtra, same, Function.update_of_ne (Ne.symm same)]
  | addExtraKey other publicKey added =>
      by_cases same : other = tenantId
      · subst same
        obtain ⟨ownKey, own⟩ := key
        simp only [apply, addExtraKey, Function.update_self, Option.getD_some, List.mem_append,
          List.mem_singleton, StoredKey.mk.injEq, KeyOp.addExtraKey.injEq, KeyOp.EndsExtra,
          not_false_eq_true, and_true, true_and]
        rw [or_comm, eq_comm (a := ownKey), eq_comm (a := own)]
      · simp [apply, addExtraKey, KeyOp.EndsExtra, same, Function.update_of_ne (Ne.symm same)]
  | revokeExtraKey other publicKey =>
      simp only [apply, keys_revokeExtraKey, reduceCtorEq, false_or, KeyOp.EndsExtra]
      by_cases same : other = tenantId
      · simp only [same, if_true, List.mem_filter, bne_iff_ne, true_and, ne_comm]
      · simp [same]

theorem mem_activeSecrets {auth : TokenService} {secret : List UInt8} :
    secret ∈ auth.activeSecrets tenantId ↔ auth.secrets tenantId = some secret ∨
      ∃ key ∈ (auth.keys tenantId).getD [], key.secret = secret := by
  rw [activeSecrets, List.mem_append, Option.mem_toList, getAllSecrets, List.mem_map]

theorem registers_or_mem {auth : TokenService} {op : KeyOp} {secret : List UInt8}
    (active : secret ∈ (auth.apply op).activeSecrets tenantId) :
    op.Registers tenantId secret ∨ secret ∈ auth.activeSecrets tenantId := by
  rcases (mem_activeSecrets tenantId).mp active with primary | ⟨key, stored, rfl⟩
  · rcases (secrets_apply tenantId auth op secret).mp primary with rfl | ⟨before, _⟩
    · exact Or.inl ⟨rfl, rfl⟩
    · exact Or.inr ((mem_activeSecrets tenantId).mpr (Or.inl before))
  · rcases (mem_keys_apply tenantId auth op key).mp stored with rfl | ⟨before, _⟩
    · exact Or.inl ⟨rfl, rfl⟩
    · exact Or.inr ((mem_activeSecrets tenantId).mpr (Or.inr ⟨key, before, rfl⟩))

theorem mem_of_registers (auth : TokenService) {op : KeyOp} {secret : List UInt8}
    (registers : op.Registers tenantId secret) : secret ∈ (auth.apply op).activeSecrets tenantId := by
  rw [mem_activeSecrets]
  cases op with
  | registerTenant other registered =>
      obtain ⟨rfl, rfl⟩ := registers
      exact Or.inl ((secrets_apply _ auth _ _).mpr (Or.inl rfl))
  | addExtraKey other publicKey added =>
      obtain ⟨rfl, rfl⟩ := registers
      exact Or.inr ⟨⟨publicKey, added⟩, (mem_keys_apply _ auth _ _).mpr (Or.inl rfl), rfl⟩
  | _ => cases registers

theorem activeSecrets_revokeTenant (auth : TokenService) :
    (auth.revokeTenant tenantId).activeSecrets tenantId = [] := by
  simp [activeSecrets, getAllSecrets, revokeTenant]

theorem secrets_after (ops : List KeyOp) (secret : List UInt8) :
    (after ops).secrets tenantId = some secret ↔
      Step.Since (· = .registerTenant tenantId secret) (KeyOp.EndsPrimary tenantId) ops := by
  induction ops using List.reverseRecOn with
  | nil => exact iff_of_false (fun found => by cases found) (Step.not_since_nil _ _)
  | append_singleton ops op ih => rw [after_concat, secrets_apply, Step.since_concat, ih]

theorem mem_keys_after (ops : List KeyOp) (key : StoredKey) :
    key ∈ ((after ops).keys tenantId).getD [] ↔
      Step.Since (· = .addExtraKey tenantId key.publicKey key.secret)
        (KeyOp.EndsExtra tenantId key.publicKey) ops := by
  induction ops using List.reverseRecOn with
  | nil => exact iff_of_false List.not_mem_nil (Step.not_since_nil _ _)
  | append_singleton ops op ih => rw [after_concat, mem_keys_apply, Step.since_concat, ih]

theorem mem_activeSecrets_after (ops : List KeyOp) (secret : List UInt8) :
    secret ∈ (after ops).activeSecrets tenantId ↔ Active ops tenantId secret := by
  unfold Active
  rw [mem_activeSecrets, secrets_after]
  refine or_congr_right ⟨?_, ?_⟩
  · rintro ⟨key, stored, rfl⟩
    exact ⟨key.publicKey, (mem_keys_after tenantId ops key).mp stored⟩
  · rintro ⟨publicKey, lasting⟩
    exact ⟨⟨publicKey, secret⟩, (mem_keys_after tenantId ops _).mpr lasting, rfl⟩

end

end TokenService
end RealtimePlatform.Backend
