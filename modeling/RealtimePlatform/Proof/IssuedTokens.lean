import RealtimePlatform.Backend.Publications
import RealtimePlatform.Backend.TokenText
import RealtimePlatform.Proof.Handling

namespace RealtimePlatform.Proof.IssuedTokens
open Library Backend TokenService UseCases

/-- The AUTH frame that carries a token. -/
def authFrame (tenantId : TenantId) (channelId token : String) : FrameBuilder :=
  ⟨.auth, tenantId, channelId, token⟩

/-- The session is authenticated as the user: its presence entry and its inbox say so. -/
def AuthenticatedAs (tenantId : TenantId) (sub : String) (s : SessionId) (result : AuthOutcome × RealtimeContext) :
    Prop :=
  result.1 = .authenticated tenantId
    (.subscribed (unicastInboxChannel sub) (.channel ⟨tenantId, unicastInboxChannel sub⟩)) ∧
  (AList.lookup s result.2.presence.sessions).map (·.sub) = some sub

theorem utf8Size_urlSafe : Base64.urlSafe.chars.all (fun c => c.utf8Size == 1 && c != '.' && c != '\x00') = true := by
  decide

theorem utf8Size_encode {bytes : List UInt8} {c : Char} (member : c ∈ Base64.encode Base64.urlSafe bytes) :
    c.utf8Size = 1 ∧ c ≠ '.' ∧ c ≠ '\x00' := by
  have all := List.all_eq_true.mp utf8Size_urlSafe c (Base64.mem_of_mem_encode member)
  simpa [and_assoc] using all

section
variable {codec : TokenCodec} {encoder : TokenEncoder} {tenantId : TenantId} {sub token channelId : String}
  {issuedAt ttlSecs : Nat} {secret : List UInt8}

def payloadText (claims : Claims) : List Char := Base64.encode Base64.urlSafe (utf8 (String.ofList claims.toJson))

theorem length_payloadText (claims : Claims) : (payloadText claims).length =
    (4 * (68 + escapedLength claims.sub + (Nat.toDigits 10 claims.exp).length) + 2) / 3 := by
  rw [payloadText, Base64.length_encode, length_toJson]

variable (secret) in
theorem toList_sign (standard : Standard codec encoder ⟨tenantId, sub, expiry issuedAt ttlSecs⟩) :
    ∃ sig, sig.length = 43 ∧ (∀ c ∈ sig, c.utf8Size = 1 ∧ c ≠ '.' ∧ c ≠ '\x00') ∧
      Base64.decode Base64.urlSafe sig = some (codec.mac secret
        (utf8 (String.ofList (payloadText ⟨tenantId, sub, expiry issuedAt ttlSecs⟩)))) ∧
      (sign codec encoder issuedAt tenantId sub ttlSecs secret).toList =
        payloadText ⟨tenantId, sub, expiry issuedAt ttlSecs⟩ ++ '.' :: sig := by
  refine ⟨Base64.encode Base64.urlSafe (codec.mac secret
    (utf8 (String.ofList (payloadText ⟨tenantId, sub, expiry issuedAt ttlSecs⟩)))), ?_, fun c => utf8Size_encode,
    Base64.decode_encode _, ?_⟩
  · rw [Base64.length_encode, standard.mac]
  · simp [sign, standard.encode, standard.toVec, payloadText, String.toList_append]

variable (secret) in
theorem payload_authFrame {frame : Frame} (standard : Standard codec encoder ⟨tenantId, sub, expiry issuedAt ttlSecs⟩)
    (parsed : Frame.parse (authFrame tenantId channelId
      (sign codec encoder issuedAt tenantId sub ttlSecs secret)).build = .ok frame) :
    frame.tenantId = tenantId ∧ frame.payload =
      String.ofList ((sign codec encoder issuedAt tenantId sub ttlSecs secret).toList.take lenPayload) := by
  rw [← FrameBuilder.raw_built, Frame.parse_raw] at parsed
  obtain rfl := Except.ok.inj parsed
  refine ⟨rfl, ?_⟩
  obtain ⟨sig, -, plain, -, text⟩ := toList_sign secret standard
  have ascii : ∀ c ∈ (sign codec encoder issuedAt tenantId sub ttlSecs secret).toList,
      c.utf8Size = 1 ∧ c ≠ '\x00' := by
    intro c member
    rw [text, List.mem_append, List.mem_cons] at member
    rcases member with first | rfl | second
    · exact ⟨(utf8Size_encode first).1, (utf8Size_encode first).2.2⟩
    · exact ⟨rfl, by decide⟩
    · exact ⟨(plain c second).1, (plain c second).2.2⟩
  show trimEndNul (String.ofList (Utf16.fitting lenPayload
    (sign codec encoder issuedAt tenantId sub ttlSecs secret).toList)) = _
  rw [fitting_ascii fun c member => (ascii c member).1, trimEndNul_eq_self_iff, String.toList_ofList]
  intro nonempty
  exact (ascii _ (List.mem_of_mem_take (List.getLast_mem nonempty))).2

theorem splitOnce_take {before sig : List Char} {width : Nat} {first second : String} (dotless : '.' ∉ before)
    (halves : splitOnce '.' (String.ofList ((before ++ '.' :: sig).take width)) = some (first, second)) :
    before.length < width ∧ first = String.ofList before ∧
      second = String.ofList (sig.take (width - before.length - 1)) := by
  by_cases long : before.length < width
  · have cut : (before ++ '.' :: sig).take width = before ++ '.' :: sig.take (width - before.length - 1) := by
      rw [List.take_append, List.take_of_length_le (Nat.le_of_lt long)]
      congr 1
      obtain ⟨more, rest⟩ : ∃ more, width - before.length = more + 1 := ⟨width - before.length - 1, by omega⟩
      rw [rest, List.take_succ_cons, Nat.add_sub_cancel]
    rw [cut, splitOnce_ofList _ dotless] at halves
    obtain ⟨rfl, rfl⟩ := Prod.mk.inj (Option.some.inj halves)
    exact ⟨long, rfl, rfl⟩
  · rw [List.take_append_of_le_length (Nat.le_of_not_lt long)] at halves
    have whole : (before.take width).span (· != '.') = (before.take width, []) := by
      have absent : ∀ c ∈ before.take width, (c != '.') = true := by
        intro c member
        rw [bne_iff_ne]
        rintro rfl
        exact dotless (List.mem_of_mem_take member)
      rw [List.span_eq_takeWhile_dropWhile, List.takeWhile_eq_self_iff.mpr absent]
      rw [List.dropWhile_eq_nil_iff.mpr absent]
    rw [splitOnce, String.toList_ofList, whole] at halves
    cases halves

theorem dotless_payloadText (claims : Claims) : '.' ∉ payloadText claims :=
  fun member => (utf8Size_encode member).2.1 rfl

theorem fits_of_validate {auth : TokenService} {nowUnix : Nat} {claims : Claims}
    (standard : Standard codec encoder ⟨tenantId, sub, expiry issuedAt ttlSecs⟩)
    (valid : validate codec auth nowUnix tenantId (String.ofList
      ((sign codec encoder issuedAt tenantId sub ttlSecs secret).toList.take lenPayload)) = .ok claims) :
    nowUnix ≤ expiry issuedAt ttlSecs ∧
      (payloadText ⟨tenantId, sub, expiry issuedAt ttlSecs⟩).length + 44 ≤ lenPayload := by
  obtain ⟨-, fresh, other, -, first, second, bytes, halves, decoded, parsed, signature⟩ := validate_ok valid
  obtain ⟨sig, size, -, -, text⟩ := toList_sign secret standard
  rw [text] at halves
  obtain ⟨inside, rfl, rfl⟩ := splitOnce_take (dotless_payloadText _) halves
  rw [standard.decode, String.toList_ofList, payloadText, Base64.decode_encode] at decoded
  obtain rfl := Option.some.inj decoded
  obtain rfl := Option.some.inj (standard.fromSlice.symm.trans parsed)
  refine ⟨fresh, ?_⟩
  rw [standard.decode, String.toList_ofList] at signature
  have written := congrArg List.length (Base64.encode_of_decode signature)
  rw [Base64.length_encode, standard.mac, List.length_take, size] at written
  omega

theorem authenticateSession_of_valid {s : SessionId} {rx : ReceiverId} {frame : Frame} {now : Clock}
    {ctx : RealtimeContext} {exp : Nat} (own : frame.tenantId = tenantId)
    (valid : ctx.auth.validate codec now.unixSecs tenantId frame.payload = .ok ⟨tenantId, sub, exp⟩) :
    AuthenticatedAs tenantId sub s (authenticateSession codec s rx frame now ctx) := by
  subst own
  have subscribed := ChannelRouterService.subscribe_own ⟨frame.tenantId, unicastInboxChannel sub⟩ rx ctx.channelRouter
  simp only [AuthenticatedAs, authenticateSession, valid, RealtimeContext.handleJoin, subscribed]
  refine ⟨trivial, ?_⟩
  rw [PresenceService.register, AList.lookup_insert, Option.map_some]

theorem valid_of_authenticated {s : SessionId} {rx : ReceiverId} {frame : Frame} {now : Clock}
    {ctx : RealtimeContext} (own : frame.tenantId = tenantId)
    (authenticated : AuthenticatedAs tenantId sub s (authenticateSession codec s rx frame now ctx)) :
    ∃ claims, ctx.auth.validate codec now.unixSecs tenantId frame.payload = .ok claims := by
  subst own
  cases valid : ctx.auth.validate codec now.unixSecs frame.tenantId frame.payload with
  | ok claims => exact ⟨claims, rfl⟩
  | error err =>
      have rejected := authenticated.1
      simp only [authenticateSession, valid] at rejected
      cases rejected

theorem fits_iff (claims : Claims) : (payloadText claims).length + 44 ≤ lenPayload ↔
    escapedLength claims.sub + (Nat.toDigits 10 claims.exp).length ≤ 57 := by
  rw [length_payloadText, lenPayload]
  omega

theorem expiry_eq (small : issuedAt + ttlSecs < 2 ^ 64) : expiry issuedAt ttlSecs = issuedAt + ttlSecs :=
  Nat.mod_eq_of_lt small

/-- An issued token that has not expired authenticates its user exactly when its expiry fits 64 bits and the whole of
it fits the frame. -/
theorem issued_token_usable_iff (codec : TokenCodec) (encoder : TokenEncoder) (auth : TokenService)
    (tenantId : TenantId) (sub channelId token : String) (issuedAt ttlSecs : Nat) (s : SessionId) (rx : ReceiverId)
    (frame : Frame) (now : Clock) (ctx : RealtimeContext) (bounded : ttlSecs < 2 ^ 64)
    (standard : Standard codec encoder ⟨tenantId, sub, expiry issuedAt ttlSecs⟩)
    (issued : issueToken codec encoder auth issuedAt tenantId sub ttlSecs = .ok token)
    (active : ∀ secret, auth.secrets tenantId = some secret → secret ∈ ctx.auth.activeSecrets tenantId)
    (parsed : Frame.parse (authFrame tenantId channelId token).build = .ok frame)
    (later : issuedAt ≤ now.unixSecs) (unexpired : now.unixSecs ≤ issuedAt + ttlSecs) :
    AuthenticatedAs tenantId sub s (authenticateSession codec s rx frame now ctx) ↔
      issuedAt + ttlSecs < 2 ^ 64 ∧ escapedLength sub + (Nat.toDigits 10 (issuedAt + ttlSecs)).length ≤ 57 := by
  obtain ⟨secret, stored, rfl⟩ : ∃ secret, auth.secrets tenantId = some secret ∧
      sign codec encoder issuedAt tenantId sub ttlSecs secret = token := by
    unfold issueToken at issued
    split at issued
    · cases issued
    · rename_i secret stored
      exact ⟨secret, stored, Except.ok.inj issued⟩
  obtain ⟨own, payload⟩ := payload_authFrame secret standard parsed
  constructor
  · intro authenticated
    obtain ⟨claims, valid⟩ := valid_of_authenticated own authenticated
    rw [payload] at valid
    obtain ⟨fresh, fits⟩ := fits_of_validate standard valid
    have small : issuedAt + ttlSecs < 2 ^ 64 := by
      have wrapped := le_trans later fresh
      unfold expiry at wrapped
      omega
    rw [fits_iff, expiry_eq small] at fits
    exact ⟨small, fits⟩
  · rintro ⟨small, fits⟩
    rw [expiry_eq small] at standard
    obtain ⟨sig, size, -, signature, text⟩ := toList_sign secret ((expiry_eq small).symm ▸ standard)
    rw [expiry_eq small] at signature text
    have whole : frame.payload = String.ofList (payloadText ⟨tenantId, sub, issuedAt + ttlSecs⟩ ++ '.' :: sig) := by
      rw [payload, text, List.take_of_length_le]
      have room := (fits_iff ⟨tenantId, sub, issuedAt + ttlSecs⟩).mpr fits
      rw [List.length_append, List.length_cons, size]
      omega
    have signed : SignedUnder codec frame.payload ⟨tenantId, sub, issuedAt + ttlSecs⟩ secret := by
      refine ⟨_, _, _, by rw [whole, splitOnce_ofList _ (dotless_payloadText _)], ?_, standard.fromSlice, ?_⟩
      · rw [standard.decode, String.toList_ofList, payloadText, Base64.decode_encode]
      · rw [standard.decode, String.toList_ofList, signature]
    exact authenticateSession_of_valid own (validate_of_signed signed (active secret stored) unexpired)

end

section
open SampleToken Sample Server

example : utf8 (String.ofList alice.claims.toJson) = alice.payload := by
  rw [utf8_ofList]
  decide

example : Base64.encode Base64.urlSafe alice.payload = alice.payloadB64 := by decide

def urlEncoder : TokenEncoder where
  encode bytes := String.ofList (Base64.encode Base64.urlSafe bytes)
  toVec claims := utf8 (String.ofList claims.toJson)

def urlCodec (claims : Claims) : TokenCodec where
  decode text := Base64.decode Base64.urlSafe text.toList
  fromSlice bytes := if bytes = utf8 (String.ofList claims.toJson) then some claims else none
  mac key message := if key = secret ∧ message = utf8 (String.ofList alice.payloadB64) then alice.sig
    else List.replicate 32 0

theorem standard_urlCodec (claims : Claims) : Standard (urlCodec claims) urlEncoder claims where
  encode bytes := by simp only [urlEncoder]
  decode text := by simp only [urlCodec]
  toVec := by simp only [urlEncoder]
  fromSlice := by simp only [urlCodec, if_true]
  mac key message := by
    simp only [urlCodec]
    split <;> rfl

theorem issue_registered (claims : Claims) (issuedAt ttlSecs : Nat) (sub : String) :
    issueToken (urlCodec claims) urlEncoder (registered false).ctx.auth issuedAt tenantOne sub ttlSecs =
      .ok (sign (urlCodec claims) urlEncoder issuedAt tenantOne sub ttlSecs secret) := rfl

theorem parse_authFrame (tenantId : TenantId) (channelId token : String) :
    Frame.parse (authFrame tenantId channelId token).build = .ok (authFrame tenantId channelId token).built :=
  Frame.parse_eq_ok_iff.mpr (FrameBuilder.raw_built _)

theorem active_registered : ∀ key, (registered false).ctx.auth.secrets tenantOne = some key →
    key ∈ (registered false).ctx.auth.activeSecrets tenantOne := by
  intro key stored
  exact List.mem_append_left _ (Option.mem_toList.mpr stored)

def aliceCodec : TokenCodec := urlCodec ⟨tenantOne, "a", 9⟩

def aliceToken : String := sign aliceCodec urlEncoder 0 tenantOne "a" 9 secret

theorem alice_authenticates :
    AuthenticatedAs tenantOne "a" sessionOne (authenticateSession aliceCodec sessionOne ⟨sessionOne, 0⟩
      (authFrame tenantOne "" aliceToken).built ⟨0, 5000000000⟩ (registered false).ctx) := by
  have standard : Standard aliceCodec urlEncoder ⟨tenantOne, "a", expiry 0 9⟩ := standard_urlCodec ⟨tenantOne, "a", 9⟩
  have issued : issueToken aliceCodec urlEncoder (registered false).ctx.auth 0 tenantOne "a" 9 = .ok aliceToken :=
    issue_registered _ 0 9 "a"
  have usable := issued_token_usable_iff aliceCodec urlEncoder (registered false).ctx.auth tenantOne "a" "" aliceToken
    0 9 sessionOne ⟨sessionOne, 0⟩ (authFrame tenantOne "" aliceToken).built ⟨0, 5000000000⟩ (registered false).ctx
    (by decide) standard issued active_registered (parse_authFrame tenantOne "" aliceToken) (by decide) (by decide)
  exact usable.mpr ⟨by decide, by decide⟩

def longSub : String := "aaaaaaaaaaaaaaaaaaaaaaaaaaaaaaaaaaaaaaaaaaaaaaaa"

def longClaims : Claims := ⟨tenantOne, longSub, 1700003600⟩

theorem long_sub_rejected :
    issueToken (urlCodec longClaims) urlEncoder (registered false).ctx.auth 1700000000 tenantOne longSub 3600 =
      .ok (sign (urlCodec longClaims) urlEncoder 1700000000 tenantOne longSub 3600 secret) ∧
    ¬ AuthenticatedAs tenantOne longSub sessionOne (authenticateSession (urlCodec longClaims) sessionOne
      ⟨sessionOne, 0⟩ (authFrame tenantOne ""
        (sign (urlCodec longClaims) urlEncoder 1700000000 tenantOne longSub 3600 secret)).built
      ⟨0, 1700000000000000000⟩ (registered false).ctx) := by
  have standard : Standard (urlCodec longClaims) urlEncoder ⟨tenantOne, longSub, expiry 1700000000 3600⟩ :=
    standard_urlCodec longClaims
  obtain ⟨own, payload⟩ := payload_authFrame secret standard (parse_authFrame tenantOne "" _)
  refine ⟨issue_registered longClaims 1700000000 3600 longSub, fun authenticated => ?_⟩
  obtain ⟨claims, valid⟩ := valid_of_authenticated own authenticated
  rw [payload] at valid
  have fits := (fits_iff _).mp (fits_of_validate standard valid).2
  exact absurd fits (by decide)

end

end RealtimePlatform.Proof.IssuedTokens
