import RealtimePlatform.Backend.PushSide
import RealtimePlatform.Proof.ClusterRouting
import RealtimePlatform.Proof.PushIsolation
import RealtimePlatform.Proof.PushPrivacy
import RealtimePlatform.Sdk.Notifications

namespace RealtimePlatform.Proof.WebPushDelivery
open Library Backend Backend.Server Backend.UseCases PushSubscriptionRepository PushIsolation PushPrivacy Sdk

variable {Secret Point World : Type} {env : WebPushEnv Secret Point World}

def codingHeader (env : WebPushEnv Secret Point World) (asSecret : Secret) (salt : List.Vector UInt8 16) :
    CodingHeader :=
  ⟨salt.toList, 4096, env.crypto.encodePoint (env.crypto.publicKey asSecret)⟩

theorem expandKey_eq {salt ikm info key : List UInt8} {n : Nat}
    (derived : env.crypto.expand salt ikm info n = some key) : expandKey env salt ikm info n = .ok key := by
  rw [expandKey, derived]

theorem encryptAes128gcmWith_lawful (lawful : env.crypto.Lawful) {payload : List UInt8}
    (short : payload.length < PushCrypto.maxPlaintext) (uaPublicBytes : List UInt8) (uaPublic : Point)
    (authSecret : List UInt8) (asSecret : Secret) (salt : List.Vector UInt8 16) : ∃ cek nonce record,
      env.crypto.recordKey (env.crypto.diffieHellman asSecret uaPublic) authSecret uaPublicBytes
        (env.crypto.encodePoint (env.crypto.publicKey asSecret)) salt.toList = some (cek, nonce) ∧
      env.crypto.decrypt cek nonce record = some (payload ++ [2]) ∧
      record.length = payload.length + 17 ∧
      encryptAes128gcmWith env payload uaPublicBytes uaPublic authSecret asSecret salt =
        .ok ((codingHeader env asSecret salt).write ++ record) := by
  obtain ⟨ikm, cek, nonce, derived, keyed, sized, drawn, sized', both⟩ :=
    lawful.recordKey (env.crypto.diffieHellman asSecret uaPublic) authSecret uaPublicBytes
      (env.crypto.encodePoint (env.crypto.publicKey asSecret)) salt.toList
  have fits : (payload ++ [2]).length ≤ PushCrypto.maxPlaintext := by
    rw [List.length_append]
    exact short
  obtain ⟨record, sealed, length, opened⟩ := lawful.decrypts sized sized' fits
  refine ⟨cek, nonce, record, both, opened, by simpa using length, ?_⟩
  simp only [PushCrypto.keyInfo] at derived
  rw [encryptAes128gcmWith]
  simp only [bind, Except.bind, expandKey_eq derived, expandKey_eq keyed, expandKey_eq drawn, sealed]
  rfl

theorem receive_encrypted (lawful : env.crypto.Lawful) {payload authSecret body : List UInt8} {ua asSecret : Secret}
    {salt : List.Vector UInt8 16} (short : payload.length < PushCrypto.maxPlaintext)
    (encrypted : encryptAes128gcmWith env payload (env.crypto.encodePoint (env.crypto.publicKey ua))
      (env.crypto.publicKey ua) authSecret asSecret salt = .ok body) :
    env.crypto.receive ua authSecret body = if payload.length ≤ 4079 then some payload else none := by
  obtain ⟨cek, nonce, record, keyed, opened, length, same⟩ := encryptAes128gcmWith_lawful lawful short
    (env.crypto.encodePoint (env.crypto.publicKey ua)) (env.crypto.publicKey ua) authSecret asSecret salt
  obtain rfl := Except.ok.inj (encrypted.symm.trans same)
  have small : (codingHeader env asSecret salt).recordSize < 256 ^ 4 := by
    show 4096 < 256 ^ 4
    decide
  rw [lawful.receive_sealed salt.toList_length small rfl keyed opened, length]
  by_cases one : payload.length ≤ 4079
  · rw [if_pos one, if_neg]
    show ¬ 4096 < payload.length + 17
    omega
  · rw [if_neg one, if_pos]
    show 4096 < payload.length + 17
    omega

def usable (env : WebPushEnv Secret Point World) (sub : WebPushSubscription) : Bool :=
  (pushServiceOrigin env sub.endpoint).isSome &&
    (((urlSafeNoPadDecode sub.p256dhKey).bind env.crypto.decodePoint).isSome &&
      (urlSafeNoPadDecode sub.authKey).isSome)

structure Delivers (env : WebPushEnv Secret Point World) (payload : List UInt8) (sub : WebPushSubscription)
    (request : PushRequest) : Prop where
  endpoint : request.endpoint = sub.endpoint
  readable (ua : Secret) (auth : List UInt8)
    (point : sub.p256dhKey = arrayBufferToBase64Url (env.crypto.encodePoint (env.crypto.publicKey ua)))
    (secret : sub.authKey = arrayBufferToBase64Url auth) :
    env.crypto.receive ua auth request.body = if payload.length ≤ 4079 then some payload else none

def posts (env : WebPushEnv Secret Point World) (vapid : VapidKeys Secret) (job : WebPushJob)
    (subs : List WebPushSubscription) (w : World) : List PushRequest :=
  (dispatchTo env vapid job subs w).1.filterMap PushDispatch.request?

section
variable (vapid : VapidKeys Secret) {job : WebPushJob} {sub : WebPushSubscription} {w : World}

theorem encryptAes128gcm_unusable (payload : List UInt8) {p256dh auth : String}
    (not : ((urlSafeNoPadDecode p256dh).bind env.crypto.decodePoint).isSome = true →
      (urlSafeNoPadDecode auth).isSome = false) :
    ∃ err, encryptAes128gcm env payload p256dh auth w = (.error err, w) := by
  unfold encryptAes128gcm
  cases decoded : urlSafeNoPadDecode p256dh with
  | none => exact ⟨_, rfl⟩
  | some uaPublicBytes =>
      rw [decoded, Option.bind_some] at not
      cases point : env.crypto.decodePoint uaPublicBytes with
      | none => exact ⟨.invalidKey, by simp only [point]⟩
      | some uaPublic =>
          rw [point] at not
          have absent := Option.not_isSome_iff_eq_none.mp (Bool.eq_false_iff.mp (not rfl))
          exact ⟨.base64, by simp only [point, absent]⟩

theorem dispatchOne_unusable (not : usable env sub = false) :
    (dispatchOne env vapid job sub w).1.request? = none := by
  unfold dispatchOne
  cases origin : pushServiceOrigin env sub.endpoint with
  | none => rfl
  | some audience =>
      rw [usable, origin, Option.isSome_some, Bool.true_and, Bool.and_eq_false_imp] at not
      obtain ⟨err, failed⟩ := encryptAes128gcm_unusable (w := w) (utf8 job.payload) not
      simp only [failed, PushDispatch.request?]

theorem dispatchOne_posted {audience : String} {body : List UInt8} {w' : World}
    (origin : pushServiceOrigin env sub.endpoint = some audience)
    (encrypted : encryptAes128gcm env (utf8 job.payload) sub.p256dhKey sub.authKey w = (.ok body, w')) :
    ∃ headers, (dispatchOne env vapid job sub w).1.request? = some ⟨sub.endpoint, headers, body⟩ := by
  simp only [dispatchOne, origin, encrypted, PushDispatch.request?]
  exact ⟨_, rfl⟩

theorem dispatchOne_usable (lawful : env.crypto.Lawful)
    (short : (utf8 job.payload).length < PushCrypto.maxPlaintext) (fit : usable env sub = true) :
    ∃ request, (dispatchOne env vapid job sub w).1.request? = some request ∧
      Delivers env (utf8 job.payload) sub request := by
  simp only [usable, Bool.and_eq_true, Option.isSome_iff_exists, Option.bind_eq_some_iff] at fit
  obtain ⟨⟨audience, origin⟩, ⟨uaPublic, uaPublicBytes, decoded, point⟩, authSecret, decoded'⟩ := fit
  obtain ⟨cek, nonce, record, _, _, _, encrypted⟩ := encryptAes128gcmWith_lawful lawful short uaPublicBytes
    uaPublic authSecret (env.random w).1.1 (env.random w).1.2
  have whole : encryptAes128gcm env (utf8 job.payload) sub.p256dhKey sub.authKey w =
      (.ok ((codingHeader env (env.random w).1.1 (env.random w).1.2).write ++ record), (env.random w).2) := by
    simp only [encryptAes128gcm, decoded, point, decoded', encrypted]
  obtain ⟨headers, sent⟩ := dispatchOne_posted vapid origin whole
  refine ⟨_, sent, rfl, ?_⟩
  intro ua auth keyText authText
  rw [keyText, arrayBufferToBase64Url_eq, urlSafeNoPadDecode_encode, Option.some.injEq] at decoded
  rw [authText, arrayBufferToBase64Url_eq, urlSafeNoPadDecode_encode, Option.some.injEq] at decoded'
  subst decoded decoded'
  rw [lawful.decode_encode, Option.some.injEq] at point
  subst point
  exact receive_encrypted lawful short encrypted

theorem posts_deliver (lawful : env.crypto.Lawful)
    (short : (utf8 job.payload).length < PushCrypto.maxPlaintext) (subs : List WebPushSubscription) (w : World) :
    List.Forall₂ (Delivers env (utf8 job.payload)) (subs.filter (usable env)) (posts env vapid job subs w) := by
  induction subs generalizing w with
  | nil => exact .nil
  | cons sub subs ih =>
      have rest := ih (dispatchOne env vapid job sub w).2
      rw [posts, dispatchTo]
      cases fit : usable env sub with
      | false =>
          rw [List.filter_cons_of_neg (by simp [fit]), List.filterMap_cons_none (dispatchOne_unusable vapid fit)]
          exact rest
      | true =>
          obtain ⟨request, sent, delivers⟩ := dispatchOne_usable (w := w) vapid lawful short fit
          rw [List.filter_cons_of_pos fit, List.filterMap_cons_some sent]
          exact .cons delivers rest

end

theorem length_payload (f : Frame) : (utf8 f.payload).length ≤ lenPayload := by
  obtain ⟨n, padded⟩ := padded_of_decodeText f.payloadEq
  have sized := congrArg List.length padded
  rw [RawFrame.length_slice _ (by decide), List.length_append] at sized
  omega

def ShortQueue (server : Server) : Prop :=
  ∀ queue, server.ctx.pushFallback.webPush = some queue → ∀ lookup ∈ queue,
    (utf8 lookup.payload).length ≤ lenPayload

theorem shortQueue_step (serverEnv : Env) (server : Server) (e : Event) (server' : Server)
    (short : ShortQueue server) (taken : step serverEnv server e = some server') : ShortQueue server' := by
  by_cases sends : e = .clusterSend
  · subst sends
    cases step_cases taken with
    | sent => exact short
  intro queue queued lookup member
  have side : server'.ctx.pushFallback.webPush = _ :=
    congrArg (fun side : PushSide => side.service.webPush) (step_pushSide taken sends)
  rw [queued] at side
  cases published : clientPublish serverEnv server e with
  | none =>
      rw [published] at side
      exact short queue side.symm lookup member
  | some pair =>
      rw [published] at side
      obtain ⟨before, waiting, same⟩ := Option.map_eq_some_iff.mp side.symm
      rw [← same, List.mem_append, List.mem_map] at member
      rcases member with old | ⟨n, one, rfl⟩
      · exact short before waiting lookup old
      · rw [List.mem_filter, List.mem_singleton] at one
        rw [one.1]
        exact length_payload pair.1

theorem shortQueue_run {serverEnv : Env} {config : RateLimitConfig} {timeout : Nat} {hasRedis hasWebPush : Bool}
    {server : Server} {es : List Event}
    (reached : (step serverEnv).run (start config timeout hasRedis hasWebPush) es = some server) :
    ShortQueue server := by
  refine Step.run_invariant (shortQueue_step serverEnv) reached ?_
  intro queue queued lookup member
  cases hasWebPush with
  | false => cases queued
  | true =>
      obtain rfl := Option.some.inj queued
      cases member

section
variable {codec : TokenCodec} {repo : PushSubscriptionRepository} {row : PushSubscriptionRow} {op : PushOp}

def requestEndpoint : PushOp → String
  | .register _ _ _ _ dto _ => dto.endpoint
  | .unregister _ _ _ _ endpoint _ => endpoint
  | .revoke _ _ endpoint => endpoint

theorem mem_upsert (sub : PushSubscription) (createdAt : Nat) (repo : PushSubscriptionRepository) :
    ∃ row ∈ (repo.upsert sub createdAt).rows, row.subscription = sub := by
  unfold upsert
  split
  · rename_i stored
    obtain ⟨row, member, same⟩ := List.mem_map.mp stored
    refine ⟨rewriteRow sub row, List.mem_map_of_mem member, ?_⟩
    rw [rewriteRow, if_pos same]
  · exact ⟨⟨sub, createdAt⟩, List.mem_append_right _ List.mem_cons_self, rfl⟩

theorem mem_upsert_of_ne {sub : PushSubscription} {createdAt : Nat} (member : row ∈ repo.rows)
    (other : sub.endpoint ≠ row.subscription.endpoint) : row ∈ (repo.upsert sub createdAt).rows := by
  unfold upsert
  split
  · refine List.mem_map.mpr ⟨row, member, ?_⟩
    rw [rewriteRow, if_neg (Ne.symm other)]
  · exact List.mem_append_left _ member

theorem mem_delete_of_ne {tenantId : TenantId} {endpoint : String} (member : row ∈ repo.rows)
    (other : endpoint ≠ row.subscription.endpoint) : row ∈ (repo.delete tenantId endpoint).rows := by
  refine List.mem_filter.mpr ⟨member, ?_⟩
  simp [Ne.symm other]

theorem mem_apply_of_ne (member : row ∈ repo.rows) (other : requestEndpoint op ≠ row.subscription.endpoint) :
    row ∈ (op.apply codec repo).rows := by
  cases op with
  | register auth nowUnix createdAt written dto token =>
      rw [PushOp.apply, registerPushSubscription]
      cases auth.validate codec nowUnix dto.tenantId token with
      | error err => exact member
      | ok claims =>
          cases written with
          | false => exact member
          | true => exact mem_upsert_of_ne member other
  | unregister auth nowUnix written tenantId endpoint token =>
      rw [PushOp.apply, unregisterPushSubscription]
      cases auth.validate codec nowUnix tenantId token with
      | error err => exact member
      | ok claims =>
          cases written with
          | false => exact member
          | true => exact mem_delete_of_ne member other
  | revoke written tenantId endpoint =>
      cases written with
      | false => exact member
      | true => exact mem_delete_of_ne member other

theorem mem_foldl_of_ne {ops : List PushOp} (member : row ∈ repo.rows)
    (others : ∀ op ∈ ops, requestEndpoint op ≠ row.subscription.endpoint) :
    row ∈ (ops.foldl (PushOp.apply codec) repo).rows := by
  induction ops generalizing repo with
  | nil => exact member
  | cons op ops ih =>
      rw [List.forall_mem_cons] at others
      exact ih (mem_apply_of_ne member others.1) others.2

end

structure Browser (Secret : Type) where
  endpoint : String
  ua : Secret
  auth : List UInt8

/-- The Push API hands out the uncompressed public point and the authentication secret. -/
def Browser.subscription (crypto : PushCrypto Secret Point) (browser : Browser Secret) : BrowserSubscription where
  endpoint := browser.endpoint
  getKey
    | .p256dh => some (crypto.encodePoint (crypto.publicKey browser.ua))
    | .auth => some browser.auth

/-- Among the requests is one by which the browser registers for the tenant, with a valid token; its statement
succeeds, and no later request names the endpoint. -/
structure Registered (codec : TokenCodec) (crypto : PushCrypto Secret Point) (browser : Browser Secret)
    (options : WebPushRegistrationOptions) (ops : List PushOp) : Prop where
  accepted : ∃ info auth nowUnix createdAt guessed token claims pre post,
    toSubscriptionInfo (browser.subscription crypto) = .ok info ∧
    auth.validate codec nowUnix options.tenantId token = .ok claims ∧
    ops = pre ++ .register auth nowUnix createdAt true (registrationBody options guessed info) token :: post ∧
    ∀ op ∈ post, requestEndpoint op ≠ browser.endpoint

theorem Registered.stored {codec : TokenCodec} {crypto : PushCrypto Secret Point} {browser : Browser Secret}
    {options : WebPushRegistrationOptions} {ops : List PushOp}
    (registered : Registered codec crypto browser options ops) : ∃ row ∈ (applyAll codec ops).rows,
      row.subscription.tenantId = options.tenantId ∧ row.subscription.channels = options.channels.getD ["*"] ∧
      row.subscription.toWebPush = ⟨browser.endpoint,
        arrayBufferToBase64Url (crypto.encodePoint (crypto.publicKey browser.ua)),
        arrayBufferToBase64Url browser.auth⟩ := by
  obtain ⟨info, auth, nowUnix, createdAt, guessed, token, claims, pre, post, read, valid, rfl, others⟩ :=
    registered.accepted
  obtain rfl := Except.ok.inj read
  rw [applyAll, List.foldl_append, List.foldl_cons]
  generalize pre.foldl (PushOp.apply codec) new = repo
  rw [PushOp.apply, registerPushSubscription]
  simp only [registrationBody, valid, if_true]
  obtain ⟨row, member, same⟩ := mem_upsert
    { endpoint := browser.endpoint
      tenantId := options.tenantId
      sub := claims.sub
      p256dhKey := arrayBufferToBase64Url (crypto.encodePoint (crypto.publicKey browser.ua))
      authKey := arrayBufferToBase64Url browser.auth
      channels := options.channels.getD ["*"]
      deviceLabel := some (options.deviceLabel.getD guessed) } createdAt repo
  refine ⟨row, mem_foldl_of_ne member ?_, ?_⟩
  · rw [same]
    exact others
  · rw [same]
    exact ⟨rfl, rfl, rfl⟩

theorem map_of_forall₂ {α β γ : Type} {R : α → β → Prop} {f : α → γ} {g : β → γ}
    (marked : ∀ a b, R a b → g b = f a) {as : List α} {bs : List β} (answered : List.Forall₂ R as bs) :
    bs.map g = as.map f := by
  induction answered with
  | nil => rfl
  | cons related rest ih => rw [List.map_cons, List.map_cons, marked _ _ related, ih]

theorem filter_of_forall₂ {α β γ : Type} [DecidableEq γ] {R : α → β → Prop} {f : α → γ} {g : β → γ}
    (marked : ∀ a b, R a b → g b = f a) {as : List α} {bs : List β} (answered : List.Forall₂ R as bs)
    (distinct : (as.map f).Nodup) {a : α} (member : a ∈ as) :
    ∃ b, R a b ∧ bs.filter (fun b => g b = f a) = [b] := by
  induction answered with
  | nil => cases member
  | cons related rest ih =>
      rename_i a' b as bs
      rw [List.map_cons, List.nodup_cons] at distinct
      rcases List.mem_cons.mp member with rfl | later
      · refine ⟨b, related, ?_⟩
        rw [List.filter_cons_of_pos (by simp [marked _ _ related]), List.filter_eq_nil_iff.mpr]
        intro b' inside same
        refine distinct.1 ?_
        rw [← map_of_forall₂ marked rest, ← of_decide_eq_true same]
        exact List.mem_map_of_mem inside
      · obtain ⟨b', answers, only⟩ := ih distinct.2 later
        refine ⟨b', answers, ?_⟩
        rw [List.filter_cons_of_neg, only]
        rw [decide_eq_true_eq, marked _ _ related]
        intro same
        exact distinct.1 (same ▸ List.mem_map_of_mem later)

/-- What nobody of an instance hears reaches the browser that is registered for it: the worker posts one
request to its endpoint, and the browser decrypts the body to the payload. -/
theorem push_reaches_browser {serverEnv : Env} {config : RateLimitConfig} {timeout : Nat}
    {hasRedis hasWebPush : Bool} {server : Server} {es : List Event} {queue : List WebPushLookup}
    {lookup : WebPushLookup} {codec : TokenCodec} {browser : Browser Secret}
    {options : WebPushRegistrationOptions} {ops : List PushOp} (lawful : env.crypto.Lawful)
    (reached : (step serverEnv).run (start config timeout hasRedis hasWebPush) es = some server)
    (queued : server.ctx.pushFallback.webPush = some queue) (waiting : lookup ∈ queue)
    (registered : Registered codec env.crypto browser options ops) (own : options.tenantId = lookup.tenantId)
    (wanted : ∃ pattern ∈ options.channels.getD ["*"],
      pattern = lookup.channelId ∨ globMatch pattern lookup.channelId = true)
    (reachable : (pushServiceOrigin env browser.endpoint).isSome = true)
    (vapid : VapidKeys Secret) (w : World) :
    ∃ job, lookup.job (applyAll codec ops) = some job ∧ ∃ request,
      ((dispatchJob env vapid job w).1.filterMap PushDispatch.request?).filter
        (fun request => request.endpoint = browser.endpoint) = [request] ∧
      env.crypto.receive browser.ua browser.auth request.body = some (utf8 lookup.payload) := by
  have small := shortQueue_run reached queue queued lookup waiting
  obtain ⟨row, stored, tenant, channels, target⟩ := registered.stored
  have found : row.subscription ∈ (applyAll codec ops).findMatching lookup.tenantId lookup.channelId := by
    refine mem_findMatching.mpr ⟨row, stored, rfl, tenant.trans own, ?_⟩
    rw [Wanted, channels]
    exact wanted
  obtain ⟨job, submitted⟩ : ∃ job, lookup.job (applyAll codec ops) = some job := by
    rw [WebPushLookup.job, if_neg (List.ne_nil_of_mem found)]
    exact ⟨_, rfl⟩
  have payload : job.payload = lookup.payload := by rw [job_eq_some submitted]
  have listed : row.subscription.toWebPush ∈ job.subscriptions := by
    rw [job_eq_some submitted]
    exact List.mem_map_of_mem found
  have short : (utf8 job.payload).length < PushCrypto.maxPlaintext := by
    rw [payload]
    exact Nat.lt_of_le_of_lt small (by decide)
  have fit : usable env row.subscription.toWebPush = true := by
    rw [target, usable]
    simp only [arrayBufferToBase64Url_eq, urlSafeNoPadDecode_encode, Option.bind_some, lawful.decode_encode,
      Option.isSome_some, reachable, Bool.and_self]
  obtain ⟨request, delivers, only⟩ := filter_of_forall₂ (fun _ _ delivers => delivers.endpoint)
    (posts_deliver vapid lawful short job.subscriptions w)
    ((distinct_targets submitted).sublist (List.filter_sublist.map _)) (List.mem_filter.mpr ⟨listed, fit⟩)
  rw [target] at delivers only
  refine ⟨job, submitted, request, only, ?_⟩
  rw [delivers.readable browser.ua browser.auth rfl rfl, payload, if_pos (Nat.le_trans small (by decide))]

section Sample
open SampleToken Sample ClusterRouting

inductive SampleKey where
  | browser
  | message
  | server
  deriving DecidableEq

namespace SampleKey

def point : SampleKey → List UInt8
  | browser =>
    [4, 37, 113, 178, 190, 205, 253, 227, 96, 85, 26, 175, 30, 208, 244, 205, 54, 108, 17, 206, 190, 85, 95, 137,
      188, 183, 177, 134, 165, 51, 57, 23, 49, 104, 236, 226, 235, 224, 24, 89, 123, 211, 4, 121, 184, 110, 60,
      143, 142, 206, 213, 119, 202, 89, 24, 126, 146, 70, 153, 13, 182, 130, 0, 139, 14]
  | message =>
    [4, 254, 51, 244, 171, 13, 234, 113, 145, 77, 181, 88, 35, 247, 59, 84, 148, 143, 65, 48, 109, 146, 7, 50,
      219, 185, 165, 154, 83, 40, 100, 130, 32, 14, 89, 122, 123, 123, 194, 96, 186, 28, 34, 121, 152, 88, 9, 146,
      233, 57, 115, 0, 47, 48, 18, 162, 138, 232, 240, 107, 187, 120, 229, 236, 15]
  | server =>
    [4, 96, 254, 212, 186, 37, 90, 157, 49, 201, 97, 235, 116, 198, 53, 109, 104, 192, 73, 184, 146, 59, 97, 250,
      108, 230, 105, 98, 46, 96, 242, 159, 182, 121, 3, 254, 16, 8, 184, 188, 153, 164, 26, 233, 233, 86, 40, 188,
      100, 242, 241, 178, 12, 45, 126, 159, 81, 119, 163, 194, 148, 212, 70, 34, 153]

def ofPoint (bytes : List UInt8) : Option SampleKey := [browser, message, server].find? fun key => key.point = bytes

def shared : SampleKey → SampleKey → List UInt8
  | browser, browser =>
    [109, 171, 139, 210, 66, 105, 169, 152, 131, 232, 253, 125, 56, 182, 151, 70, 217, 177, 248, 32, 34, 26, 164,
      212, 56, 177, 125, 5, 177, 252, 108, 141]
  | browser, message | message, browser =>
    [147, 42, 203, 214, 50, 8, 56, 113, 51, 131, 123, 12, 217, 149, 145, 28, 52, 65, 235, 102, 0, 9, 152, 97, 74,
      89, 39, 39, 174, 246, 145, 43]
  | browser, server | server, browser =>
    [175, 222, 115, 159, 102, 72, 117, 190, 78, 105, 132, 59, 138, 77, 194, 162, 79, 248, 145, 57, 197, 200, 215,
      121, 225, 84, 30, 29, 78, 61, 221, 17]
  | message, message =>
    [254, 34, 141, 61, 67, 81, 92, 197, 123, 58, 58, 247, 175, 54, 75, 136, 145, 166, 193, 114, 210, 178, 225,
      128, 148, 113, 228, 241, 180, 157, 8, 134]
  | message, server | server, message =>
    [57, 46, 176, 63, 88, 251, 45, 223, 207, 24, 42, 10, 251, 37, 158, 137, 200, 254, 36, 89, 128, 42, 204, 238,
      70, 201, 54, 80, 2, 123, 238, 157]
  | server, server =>
    [35, 136, 238, 153, 12, 147, 196, 187, 117, 114, 3, 34, 91, 119, 134, 214, 153, 80, 210, 240, 222, 67, 205,
      242, 61, 199, 31, 94, 250, 161, 105, 200]

end SampleKey

def authSecret : List UInt8 := [5, 48, 89, 50, 161, 199, 234, 190, 19, 182, 206, 201, 253, 164, 136, 130]

def messageSalt : List UInt8 := [12, 107, 250, 173, 173, 103, 149, 136, 3, 9, 45, 69, 70, 118, 243, 151]

def inputKey : List UInt8 :=
  [75, 137, 88, 49, 191, 203, 208, 92, 66, 122, 173, 22, 132, 60, 124, 215, 114, 160, 73, 138, 148, 219, 169, 14,
    203, 53, 148, 118, 197, 216, 202, 184]

def contentKey : List UInt8 := [160, 136, 85, 91, 78, 12, 69, 220, 182, 92, 223, 66, 136, 162, 241, 78]

def messageNonce : List UInt8 := [226, 31, 253, 230, 73, 87, 39, 145, 63, 170, 122, 13]

def greetingRecord : List UInt8 := [104, 105, 2]
def sealedGreeting : List UInt8 :=
  [205, 150, 185, 86, 212, 97, 69, 205, 188, 104, 248, 84, 167, 178, 148, 136, 4, 204, 189]

def derived (salt ikm info : List UInt8) (length : Nat) : Option (List UInt8) :=
  if (salt, ikm, info, length) = (authSecret, SampleKey.shared .message .browser,
      PushCrypto.keyInfo (SampleKey.point .browser) (SampleKey.point .message), 32) then some inputKey
  else if (salt, ikm, info, length) =
      (messageSalt, inputKey, utf8 "Content-Encoding: aes128gcm\x00", 16) then some contentKey
  else if (salt, ikm, info, length) =
      (messageSalt, inputKey, utf8 "Content-Encoding: nonce\x00", 12) then some messageNonce
  else none

def sampleCrypto : PushCrypto SampleKey SampleKey where
  publicKey key := key
  encodePoint := SampleKey.point
  decodePoint := SampleKey.ofPoint
  diffieHellman := SampleKey.shared
  expand salt ikm info n :=
    (derived salt ikm info n).or (if n ≤ 255 * 32 then some (List.replicate n 0) else none)
  encrypt key nonce plaintext :=
    if (key, nonce, plaintext) = (contentKey, messageNonce, greetingRecord) then some sealedGreeting
    else some (plaintext ++ key)
  decrypt key nonce ciphertext :=
    if (key, nonce, ciphertext) = (contentKey, messageNonce, sealedGreeting) then some greetingRecord
    else if ciphertext.drop (ciphertext.length - 16) = key then some (ciphertext.take (ciphertext.length - 16))
    else none

theorem length_derived {salt ikm info key : List UInt8} {n : Nat} (drawn : derived salt ikm info n = some key) :
    key.length = n := by
  unfold derived at drawn
  split at drawn
  · rename_i same
    cases same
    cases drawn
    rfl
  · split at drawn
    · rename_i same
      cases same
      cases drawn
      rfl
    · split at drawn
      · rename_i same
        cases same
        cases drawn
        rfl
      · cases drawn

theorem sealedGreeting_ne (plaintext : List UInt8) : plaintext ++ contentKey ≠ sealedGreeting := by
  intro same
  have last := congrArg List.getLast? same
  rw [List.getLast?_append_of_ne_nil plaintext (by decide)] at last
  exact absurd last (by decide)

theorem sampleCrypto_lawful : sampleCrypto.Lawful where
  decode_encode point := by
    cases point with
    | browser => decide
    | message => decide
    | server => decide
  length_encode point := by
    cases point with
    | browser => rfl
    | message => rfl
    | server => rfl
  agree a b := by
    cases a with
    | browser => cases b <;> rfl
    | message => cases b <;> rfl
    | server => cases b <;> rfl
  expands salt ikm info n short := by
    cases drawn : derived salt ikm info n with
    | some key => exact ⟨key, by simp [sampleCrypto, drawn], length_derived drawn⟩
    | none => exact ⟨List.replicate n 0, by simp [sampleCrypto, drawn, short], List.length_replicate⟩
  decrypts := by
    intro key nonce plaintext keyed _ _
    by_cases real : (key, nonce, plaintext) = (contentKey, messageNonce, greetingRecord)
    · cases real
      exact ⟨sealedGreeting, by simp [sampleCrypto], rfl, by simp [sampleCrypto]⟩
    · refine ⟨plaintext ++ key, if_neg real, by simp [keyed], ?_⟩
      have other : (key, nonce, plaintext ++ key) ≠ (contentKey, messageNonce, sealedGreeting) := by
        intro same
        obtain ⟨rfl, rest⟩ := Prod.mk.inj same
        exact sealedGreeting_ne plaintext (Prod.mk.inj rest).2
      simp only [sampleCrypto, if_neg other]
      simp [keyed]

def signingInput : String :=
  "eyJ0eXAiOiJKV1QiLCJhbGciOiJFUzI1NiJ9." ++
  "eyJhdWQiOiJodHRwczovL3B1c2guZXhhbXBsZSIsImV4cCI6NDMyMDAsInN1YiI6Im1haWx0bzpvcHNAZXhhbXBsZS5jb20ifQ"

def signature : List UInt8 :=
  [74, 80, 206, 38, 67, 226, 66, 230, 89, 23, 65, 146, 204, 49, 31, 238, 105, 140, 135, 86, 181, 15, 26, 57, 26,
    204, 165, 90, 97, 200, 228, 55, 72, 212, 19, 206, 168, 219, 71, 159, 130, 231, 204, 84, 18, 13, 99, 168, 25,
    237, 78, 67, 10, 231, 183, 173, 253, 76, 124, 106, 218, 232, 36, 230]

def serverSecret : List UInt8 :=
  [201, 175, 169, 216, 69, 186, 117, 22, 107, 92, 33, 87, 103, 177, 214, 147, 78, 80, 195, 219, 54, 232, 155, 18,
    123, 138, 98, 43, 18, 15, 103, 33]

def pushEnv : WebPushEnv SampleKey SampleKey Unit where
  crypto := sampleCrypto
  secretFromSlice bytes := if bytes = serverSecret then some .server else none
  sign secret message := if secret = .server ∧ message = utf8 signingInput then signature else []
  parseUrl text := if text = "https://push.example/tablet" then some ⟨"https", some "push.example"⟩ else none
  random _ := ((.message, ⟨messageSalt, rfl⟩), ())
  now _ := (0, ())

def serverKeys : VapidKeys SampleKey := ⟨.server, encodePublicKey pushEnv .server, "mailto:ops@example.com"⟩

def tablet : Browser SampleKey := ⟨"https://push.example/tablet", .browser, authSecret⟩

def everyChannel : WebPushRegistrationOptions where
  tenantId := tenantOne

def tabletInfo : PushSubscriptionInfo :=
  ⟨tablet.endpoint, arrayBufferToBase64Url (sampleCrypto.encodePoint (sampleCrypto.publicKey tablet.ua)),
    arrayBufferToBase64Url tablet.auth⟩

def tabletRequests : List PushOp :=
  [.register (TokenService.new.registerTenant tenantOne secret) 0 0 true
    (registrationBody everyChannel "Tablet" tabletInfo) alice.text]

theorem registered_tablet : Registered codec sampleCrypto tablet everyChannel tabletRequests := by
  have active : secret ∈ (TokenService.new.registerTenant tenantOne secret).activeSecrets alice.claims.tenantId := by
    decide
  have valid := TokenService.validate_of_signed (signed alice (by simp [all])) active (Nat.zero_le _)
  exact ⟨tabletInfo, _, 0, 0, "Tablet", alice.text, _, [], [], rfl, valid, rfl, by simp⟩

theorem clientPublish_away :
    clientPublish Sample.env away (.http greeting epoch) = some (greetingParsed, ⟨tenantOne, "room"⟩) := by
  have text : publishedText Sample.env greeting epoch away.ctx = some "hi" := by decide +kernel
  exact clientPublish_of_http text (FrameBuilder.parse_build _ _)

theorem webPush_of_pushSide {ctx : RealtimeContext} {side : PushSide} (same : ctx.pushSide = side) :
    ctx.pushFallback.webPush = side.service.webPush := by
  rw [← same]
  rfl

theorem webPush_accept (ctx : RealtimeContext) {queue : List WebPushLookup} (raw : RawFrame) {n : Notification}
    (queued : ctx.pushFallback.webPush = some queue) (pushed : n.delivery = .push) :
    (ctx.pushSide.accept raw n).service.webPush = some (queue ++ [n.lookup]) := by
  simp [PushSide.accept, RealtimeContext.pushSide, queued, Notification.pushed, pushed]

theorem deliveryOf_away : away.ctx.deliveryOf ⟨tenantOne, "room"⟩ = .push := by decide

theorem webPush_away : (httpStep Sample.env greeting epoch away.ctx).pushFallback.webPush =
    some [⟨tenantOne, "room", greetingParsed.payload⟩] := by
  have side := @pushSide_http Sample.env greeting epoch away
  rw [clientPublish_away, Option.elim_some] at side
  have one := webPush_accept away.ctx greetingParsed.raw
    (n := away.ctx.notificationOf greetingParsed ⟨tenantOne, "room"⟩) rfl deliveryOf_away
  exact (webPush_of_pushSide side).trans one

theorem push_reaches_browser_tablet : ∃ server queue, ∃ lookup ∈ queue,
    (step Sample.env).run away [.http greeting epoch] = some server ∧
    server.ctx.pushFallback.webPush = some queue ∧ lookup.payload = "hi" ∧
    ∃ job, lookup.job (applyAll codec tabletRequests) = some job ∧ ∃ request,
      ((dispatchJob pushEnv serverKeys job ()).1.filterMap PushDispatch.request?).filter
        (fun request => request.endpoint = tablet.endpoint) = [request] ∧
      pushEnv.crypto.receive tablet.ua tablet.auth request.body = some (utf8 lookup.payload) := by
  have reached : (step Sample.env).run away [.http greeting epoch] =
      some (away.setCtx (httpStep Sample.env greeting epoch away.ctx)) := rfl
  have queued : (away.setCtx (httpStep Sample.env greeting epoch away.ctx)).ctx.pushFallback.webPush =
      some [⟨tenantOne, "room", greetingParsed.payload⟩] := webPush_away
  have lawful : pushEnv.crypto.Lawful := sampleCrypto_lawful
  have wanted : ∃ pattern ∈ everyChannel.channels.getD ["*"], pattern = "room" ∨ globMatch pattern "room" = true :=
    ⟨"*", by decide, by decide⟩
  have text : greetingParsed.payload = "hi" := by decide
  exact ⟨_, _, _, List.mem_singleton_self _, reached, queued, text,
    push_reaches_browser lawful reached queued (List.mem_singleton_self _)
      registered_tablet rfl wanted rfl serverKeys ()⟩

end Sample

end RealtimePlatform.Proof.WebPushDelivery
