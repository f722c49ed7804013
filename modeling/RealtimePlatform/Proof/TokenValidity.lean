import RealtimePlatform.Backend.KeyRegistry
import RealtimePlatform.Proof.Handling

namespace RealtimePlatform.Proof.TokenValidity
open Library Backend Backend.TokenService

theorem active_own (ops : List KeyOp) (tenantId : TenantId) (secret : List UInt8) :
    Active (ops.filter (·.tenantId = tenantId)) tenantId secret ↔ Active ops tenantId secret := by
  unfold Active
  refine or_congr ?_ (exists_congr fun publicKey => ?_)
  · refine Step.since_filter ?_ ?_ ops
    · rintro _ rfl
      exact decide_eq_true rfl
    · intro op gone
      cases op with
      | registerTenant | revokeTenant => exact decide_eq_true gone
      | _ => cases gone
  · refine Step.since_filter ?_ ?_ ops
    · rintro _ rfl
      exact decide_eq_true rfl
    · intro op gone
      cases op with
      | revokeTenant => exact decide_eq_true gone
      | revokeExtraKey => exact decide_eq_true gone.1
      | _ => cases gone

theorem validate_iff {codec : TokenCodec} (ops : List KeyOp) {nowUnix : Nat} {tenantId : TenantId}
    {token : String} {claims : Claims} :
    validate codec (after ops) nowUnix tenantId token = .ok claims ↔
      claims.tenantId = tenantId ∧ nowUnix ≤ claims.exp ∧
        ∃ secret, Active ops tenantId secret ∧ SignedUnder codec token claims secret := by
  constructor
  · intro valid
    obtain ⟨own, fresh, secret, active, signed⟩ := validate_ok valid
    rw [own, mem_activeSecrets_after] at active
    exact ⟨own, fresh, secret, active, signed⟩
  · rintro ⟨rfl, fresh, secret, active, signed⟩
    exact validate_of_signed signed ((mem_activeSecrets_after _ ops secret).mpr active) fresh

theorem toOption_eq_of_ok_iff {ε α : Type*} {x y : Except ε α} (same : ∀ a, x = .ok a ↔ y = .ok a) :
    x.toOption = y.toOption := by
  cases x with
  | ok a =>
      rw [(same a).mp rfl]
  | error err =>
      cases y with
      | ok a => cases (same a).mpr rfl
      | error _ => rfl

/-- A token is valid just when it is signed under a secret that the history of the tenant has left active,
and has not expired; in particular every token that was issued. -/
theorem token_validity {codec : TokenCodec} {encoder : TokenEncoder} (lawful : encoder.Lawful codec)
    (ops : List KeyOp) (tenantId : TenantId) :
    (∀ nowUnix token claims, validate codec (after ops) nowUnix tenantId token = .ok claims ↔
      claims.tenantId = tenantId ∧ nowUnix ≤ claims.exp ∧
        ∃ secret, Active ops tenantId secret ∧ SignedUnder codec token claims secret) ∧
    (∀ nowUnix token, (validate codec (after ops) nowUnix tenantId token).toOption =
      (validate codec (after (ops.filter (·.tenantId = tenantId))) nowUnix tenantId token).toOption) ∧
    ∀ issuedAt sub ttlSecs token, issuedAt + ttlSecs < 2 ^ 64 →
      issueToken codec encoder (after ops) issuedAt tenantId sub ttlSecs = .ok token →
      ∃ secret, (after ops).secrets tenantId = some secret ∧
        ∀ later nowUnix, Active (ops ++ later) tenantId secret → nowUnix ≤ issuedAt + ttlSecs →
          validate codec (after (ops ++ later)) nowUnix tenantId token =
            .ok ⟨tenantId, sub, issuedAt + ttlSecs⟩ := by
  refine ⟨fun nowUnix token claims => validate_iff ops, fun nowUnix token => ?_, ?_⟩
  · refine toOption_eq_of_ok_iff fun claims => ?_
    simp only [validate_iff, active_own]
  · intro issuedAt sub ttlSecs token small issued
    unfold issueToken at issued
    split at issued
    · cases issued
    rename_i secret stored
    obtain rfl := Except.ok.inj issued
    refine ⟨secret, stored, fun later nowUnix active fresh => ?_⟩
    have signed := signedUnder_sign lawful issuedAt tenantId sub ttlSecs secret
    rw [expiry, Nat.mod_eq_of_lt small] at signed
    exact (validate_iff _).mpr ⟨rfl, fresh, secret, active, signed⟩

namespace Sample
open SampleToken

def wide (byte : UInt8) : Char := Char.ofNat (256 + byte.toNat)

def narrow (c : Char) : Option UInt8 :=
  if 256 ≤ c.toNat then some (UInt8.ofNat (c.toNat - 256)) else none

def plainVec (claims : Claims) : List UInt8 :=
  List.replicate claims.exp 1 ++ 0 :: (claims.tenantId.toList ++ utf8 claims.sub)

def plainClaims (bytes : List UInt8) : Option Claims :=
  match bytes.span (· == 1) with
  | (_, []) => none
  | (ones, _ :: rest) =>
    if sized : (rest.take 16).length = 16 then
      if valid : (rest.drop 16).toByteArray.IsValidUTF8 then
        some ⟨⟨rest.take 16, sized⟩, String.fromUTF8 _ valid, ones.length⟩
      else none
    else none

/-- Base64 and JSON as the libraries write them for the token of alice. -/
def encoder : TokenEncoder where
  encode bytes := if bytes = alice.payload then String.ofList alice.payloadB64
    else if bytes = alice.sig then String.ofList alice.sigB64
    else String.ofList (bytes.map wide)
  toVec claims := if claims = alice.claims then alice.payload else plainVec claims

def libraries : TokenCodec where
  decode text := if text.toList = alice.payloadB64 then some alice.payload
    else if text.toList = alice.sigB64 then some alice.sig
    else text.toList.mapM narrow
  fromSlice bytes := if bytes = alice.payload then some alice.claims else plainClaims bytes
  mac key message := if key = secret ∧ alice.payloadB64.flatMap String.utf8EncodeChar = message then
      alice.sig
    else 0 :: key

theorem toNat_wide (byte : UInt8) : (wide byte).toNat = 256 + byte.toNat := by
  have valid : (256 + byte.toNat).isValidChar := by
    have bound := byte.toNat_lt
    exact Or.inl (by omega)
  rw [wide, Char.ofNat, dif_pos valid]
  exact UInt32.toNat_ofNatLT ..

theorem narrow_wide (byte : UInt8) : narrow (wide byte) = some byte := by
  rw [narrow, toNat_wide, if_pos (Nat.le_add_right _ _), Nat.add_sub_cancel_left]
  simp

theorem mapM_narrow (bytes : List UInt8) : (bytes.map wide).mapM narrow = some bytes := by
  induction bytes with
  | nil => rfl
  | cons byte bytes ih => simp [List.mapM_cons, narrow_wide, ih]

theorem ne_of_ascii {bytes : List UInt8} {text : List Char} (c : Char) (member : c ∈ text)
    (ascii : c.toNat < 256) : bytes.map wide ≠ text := by
  rintro rfl
  obtain ⟨byte, _, rfl⟩ := List.mem_map.mp member
  rw [toNat_wide] at ascii
  omega

theorem plainClaims_plainVec (claims : Claims) : plainClaims (plainVec claims) = some claims := by
  have cut : (plainVec claims).span (· == 1) =
      (List.replicate claims.exp 1, 0 :: (claims.tenantId.toList ++ utf8 claims.sub)) := by
    unfold plainVec
    rw [List.span_eq_takeWhile_dropWhile]
    induction claims.exp with
    | zero => rfl
    | succ n ih =>
        obtain ⟨ones, rest⟩ := Prod.mk.inj ih
        simp [List.replicate_succ, ones, rest]
  have sized : claims.tenantId.toList.length = 16 := claims.tenantId.toList_length
  have head : (claims.tenantId.toList ++ utf8 claims.sub).take 16 = claims.tenantId.toList :=
    List.take_left' sized
  have tail : (claims.tenantId.toList ++ utf8 claims.sub).drop 16 = utf8 claims.sub :=
    List.drop_left' sized
  have valid : (utf8 claims.sub).toByteArray.IsValidUTF8 := by
    rw [toByteArray_utf8]
    exact claims.sub.isValidUTF8
  have text : String.fromUTF8 _ valid = claims.sub := String.toByteArray_inj.mp (toByteArray_utf8 claims.sub)
  simp only [plainClaims, cut, head, tail, sized, valid, dite_true, text, List.length_replicate]
  rfl

theorem lawful : encoder.Lawful libraries where
  decode_encode bytes := by
    unfold encoder libraries
    by_cases payload : bytes = alice.payload
    · simp only [payload, if_true, String.toList_ofList]
    · by_cases sig : bytes = alice.sig
      · simp only [sig, if_true]
        decide
      · simp only [payload, sig, if_false, String.toList_ofList]
        rw [if_neg (ne_of_ascii 'e' (by decide) (by decide)),
          if_neg (ne_of_ascii 'Y' (by decide) (by decide)), mapM_narrow]
  fromSlice_toVec claims _ := by
    unfold encoder libraries
    by_cases known : claims = alice.claims
    · simp only [known, if_true]
    · have apart : plainVec claims ≠ alice.payload := by
        intro same
        have first := congrArg List.head? same
        cases number : claims.exp <;> simp [plainVec, number, List.replicate_succ, alice] at first
      simp only [known, apart, if_false, plainClaims_plainVec]
  alphabet bytes := by
    unfold encoder
    simp only
    split
    · rw [String.toList_ofList]
      decide
    · split
      · rw [String.toList_ofList]
        decide
      · rw [String.toList_ofList]
        intro member
        obtain ⟨byte, _, same⟩ := List.mem_map.mp member
        have small := congrArg Char.toNat same
        rw [toNat_wide] at small
        have dot : ('.' : Char).toNat = 46 := rfl
        omega

theorem sign_alice : sign libraries encoder 0 tenantOne "a" 9 secret = alice.text := by
  have claims : (⟨tenantOne, "a", expiry 0 9⟩ : Claims) = alice.claims := by decide
  have payload : encoder.encode (encoder.toVec ⟨tenantOne, "a", expiry 0 9⟩) =
      String.ofList alice.payloadB64 := by
    simp only [encoder, claims, if_true]
  have mac : libraries.mac secret (utf8 (String.ofList alice.payloadB64)) = alice.sig := by
    rw [utf8_ofList]
    decide
  have signature : encoder.encode alice.sig = String.ofList alice.sigB64 := by
    have apart : alice.sig ≠ alice.payload := by decide
    simp only [encoder, apart, if_false, if_true]
  have joined : String.ofList alice.payloadB64 ++ "." ++ String.ofList alice.sigB64 = alice.text := by
    apply String.toList_inj.mp
    simp [text, String.toList_append]
  simp only [sign, payload, mac, signature, joined]

theorem issued_alice : issueToken libraries encoder (after [.registerTenant tenantOne secret]) 0 tenantOne "a" 9 =
    .ok alice.text := by
  have stored : (after [.registerTenant tenantOne secret]).secrets tenantOne = some secret := by decide
  simp only [issueToken, stored, sign_alice]

theorem token_validity_alice :
    validate libraries (after [.registerTenant tenantOne secret]) 9 tenantOne alice.text = .ok ⟨tenantOne, "a", 9⟩ := by
  obtain ⟨_, _, issued⟩ := token_validity lawful [.registerTenant tenantOne secret] tenantOne
  obtain ⟨found, stored, valid⟩ := issued 0 "a" 9 alice.text (by decide) issued_alice
  obtain rfl : found = secret := by
    have here : (after [.registerTenant tenantOne secret]).secrets tenantOne = some secret := by decide
    exact Option.some.inj (stored.symm.trans here)
  refine valid [] 9 (Or.inl ⟨[], _, [], rfl, rfl, fun _ member => absurd member List.not_mem_nil⟩) (by decide)

end Sample

end RealtimePlatform.Proof.TokenValidity
