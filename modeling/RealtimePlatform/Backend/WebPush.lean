import RealtimePlatform.Library.Base64
import RealtimePlatform.Library.MessageEncryption
import RealtimePlatform.Backend.PushSubscriptions

/-!
# Web Push sends

The encryption of a payload for one subscription, the signed header of the sender, and the loop of the
worker over the subscriptions of a job. The curve, the cipher, the signature, the URL parser, the clock and
the random numbers come from outside.
-/

namespace RealtimePlatform.Backend
open Library

inductive WebPushCryptoError where
  | base64
  | invalidKey
  | hkdf
  | aead
  deriving DecidableEq

namespace WebPushCryptoError

def message : WebPushCryptoError → String
  | base64 => "invalid base64url encoding"
  | invalidKey => "invalid P-256 key"
  | hkdf => "HKDF expand failed (invalid output length)"
  | aead => "AEAD encryption failed"

end WebPushCryptoError

structure Url where
  scheme : String
  hostStr : Option String

/-- `World` is what the clock and the random numbers are read from. -/
structure WebPushEnv (Secret Point World : Type) where
  crypto : PushCrypto Secret Point
  secretFromSlice : List UInt8 → Option Secret
  sign : Secret → List UInt8 → List UInt8
  parseUrl : String → Option Url
  random : World → (Secret × List.Vector UInt8 16) × World
  now : World → Nat × World

def urlSafeNoPadEncode (bytes : List UInt8) : String := String.ofList (Base64.encode Base64.urlSafe bytes)

def urlSafeNoPadDecode (text : String) : Option (List UInt8) := Base64.decode Base64.urlSafe text.toList

theorem urlSafeNoPadDecode_encode (bytes : List UInt8) :
    urlSafeNoPadDecode (urlSafeNoPadEncode bytes) = some bytes := by
  rw [urlSafeNoPadDecode, urlSafeNoPadEncode, String.toList_ofList, Base64.decode_encode]

structure VapidKeys (Secret : Type) where
  signingKey : Secret
  publicKeyB64url : String
  subject : String

structure PushRequest where
  endpoint : String
  headers : List (String × String)
  body : List UInt8

inductive PushDispatch where
  | unparseableEndpoint (endpoint : String)
  | encryptionFailed (tenantId : TenantId) (channelId : String) (err : WebPushCryptoError)
  | posted (request : PushRequest)

def PushDispatch.request? : PushDispatch → Option PushRequest
  | posted request => some request
  | _ => none

def ttlSecs : Nat := 60 * 60 * 24 * 28

section
variable {Secret Point World : Type} (env : WebPushEnv Secret Point World)

def encodePublicKey (point : Point) : String := urlSafeNoPadEncode (env.crypto.encodePoint point)

def VapidKeys.fromEnv (privateKeyB64url subject : String) : Except WebPushCryptoError (VapidKeys Secret) :=
  match urlSafeNoPadDecode privateKeyB64url with
  | none => .error .base64
  | some raw =>
  match env.secretFromSlice raw with
  | none => .error .invalidKey
  | some secret => .ok ⟨secret, encodePublicKey env (env.crypto.publicKey secret), subject⟩

def jwtHeader : String := "\x7b\"typ\":\"JWT\",\"alg\":\"ES256\"\x7d"

def jwtClaims (audience : String) (exp : Nat) (subject : String) : String :=
  "\x7b\"aud\":\"" ++ audience ++ "\",\"exp\":" ++ toString exp ++ ",\"sub\":\"" ++ subject ++ "\"\x7d"

def jwtLifetimeSecs : Nat := 12 * 60 * 60

def VapidKeys.signJwt (vapid : VapidKeys Secret) (audience : String) (w : World) : String × World :=
  let (nowUnix, w) := env.now w
  let header := urlSafeNoPadEncode (utf8 jwtHeader)
  let payload := urlSafeNoPadEncode (utf8 (jwtClaims audience (nowUnix + jwtLifetimeSecs) vapid.subject))
  let signingInput := header ++ "." ++ payload
  (signingInput ++ "." ++ urlSafeNoPadEncode (env.sign vapid.signingKey (utf8 signingInput)), w)

def VapidKeys.authorizationHeader (vapid : VapidKeys Secret) (audience : String) (w : World) : String × World :=
  let (jwt, w) := vapid.signJwt env audience w
  ("vapid t=" ++ jwt ++ ", k=" ++ vapid.publicKeyB64url, w)

def expandKey (salt ikm info : List UInt8) (length : Nat) : Except WebPushCryptoError (List UInt8) :=
  match env.crypto.expand salt ikm info length with
  | none => .error .hkdf
  | some key => .ok key

def encryptAes128gcmWith (payload uaPublicBytes : List UInt8) (uaPublic : Point) (authSecret : List UInt8)
    (asSecret : Secret) (salt : List.Vector UInt8 16) : Except WebPushCryptoError (List UInt8) := do
  let asPublicBytes := env.crypto.encodePoint (env.crypto.publicKey asSecret)
  let ecdhSecret := env.crypto.diffieHellman asSecret uaPublic
  let keyInfo := utf8 "WebPush: info\x00" ++ uaPublicBytes ++ asPublicBytes
  let ikm ← expandKey env authSecret ecdhSecret keyInfo 32
  let cek ← expandKey env salt.toList ikm (utf8 "Content-Encoding: aes128gcm\x00") 16
  let nonceBytes ← expandKey env salt.toList ikm (utf8 "Content-Encoding: nonce\x00") 12
  let plaintext := payload ++ [0x02]
  match env.crypto.encrypt cek nonceBytes plaintext with
  | none => .error .aead
  | some ciphertext =>
    .ok (salt.toList ++ bigEndian 4 4096 ++ [UInt8.ofNat asPublicBytes.length] ++ asPublicBytes ++ ciphertext)

def encryptAes128gcm (payload : List UInt8) (p256dhB64url authB64url : String) (w : World) :
    Except WebPushCryptoError (List UInt8) × World :=
  match urlSafeNoPadDecode p256dhB64url with
  | none => (.error .base64, w)
  | some uaPublicBytes =>
  match env.crypto.decodePoint uaPublicBytes with
  | none => (.error .invalidKey, w)
  | some uaPublic =>
  match urlSafeNoPadDecode authB64url with
  | none => (.error .base64, w)
  | some authSecret =>
    let ((asSecret, salt), w) := env.random w
    (encryptAes128gcmWith env payload uaPublicBytes uaPublic authSecret asSecret salt, w)

def pushServiceOrigin (endpoint : String) : Option String := do
  let url ← env.parseUrl endpoint
  let host ← url.hostStr
  some (url.scheme ++ "://" ++ host)

def dispatchOne (vapid : VapidKeys Secret) (job : WebPushJob) (sub : WebPushSubscription) (w : World) :
    PushDispatch × World :=
  match pushServiceOrigin env sub.endpoint with
  | none => (.unparseableEndpoint sub.endpoint, w)
  | some audience =>
  match encryptAes128gcm env (utf8 job.payload) sub.p256dhKey sub.authKey w with
  | (.error err, w) => (.encryptionFailed job.tenantId job.channelId err, w)
  | (.ok body, w) =>
    let (authorization, w) := vapid.authorizationHeader env audience w
    (.posted ⟨sub.endpoint,
      [("Content-Type", "application/octet-stream"), ("Content-Encoding", "aes128gcm"),
        ("TTL", toString ttlSecs), ("Authorization", authorization)], body⟩, w)

def dispatchTo (vapid : VapidKeys Secret) (job : WebPushJob) : List WebPushSubscription → World →
    List PushDispatch × World
  | [], w => ([], w)
  | sub :: subs, w =>
    let (one, w) := dispatchOne env vapid job sub w
    let (rest, w) := dispatchTo vapid job subs w
    (one :: rest, w)

def dispatchJob (vapid : VapidKeys Secret) (job : WebPushJob) (w : World) : List PushDispatch × World :=
  dispatchTo env vapid job job.subscriptions w

end

end RealtimePlatform.Backend
