import RealtimePlatform.Backend.WebPush

/-!
# Push subscriptions of a browser

The keys of a browser's subscription as the registration sends them, from the padded Base64 of browsers to
the URL-safe one of the server.
-/

namespace RealtimePlatform.Sdk
open Library Backend

structure PushSubscriptionKeys where
  p256dh : String
  auth : String

structure PushSubscriptionInfo where
  endpoint : String
  keys : PushSubscriptionKeys

inductive PushEncryptionKeyName where
  | p256dh
  | auth

structure BrowserSubscription where
  endpoint : String
  getKey : PushEncryptionKeyName → Option (List UInt8)

def replaceChar (old new : Char) (cs : List Char) : List Char := cs.map fun c => if c = old then new else c

def arrayBufferToBase64Url (bytes : List UInt8) : String :=
  String.ofList ((replaceChar '/' '_' (replaceChar '+' '-' (Base64.btoa bytes))).rdropWhile (· == '='))

def toSubscriptionInfo (subscription : BrowserSubscription) : Except String PushSubscriptionInfo :=
  match subscription.getKey .p256dh, subscription.getKey .auth with
  | some p256dh, some auth =>
    .ok ⟨subscription.endpoint, arrayBufferToBase64Url p256dh, arrayBufferToBase64Url auth⟩
  | _, _ => .error ("Push subscription is missing p256dh/auth keys — the browser's PushManager returned an " ++
      "incomplete subscription.")

structure WebPushRegistrationOptions where
  tenantId : TenantId
  channels : Option (List String) := none
  deviceLabel : Option String := none

/-- The body that `registerWebPushSubscription` posts; `guessed` is what `guessDeviceLabel` returns. -/
def registrationBody (options : WebPushRegistrationOptions) (guessed : String)
    (subscription : PushSubscriptionInfo) : RegisterPushSubscriptionDto where
  tenantId := options.tenantId
  endpoint := subscription.endpoint
  p256dh := subscription.keys.p256dh
  auth := subscription.keys.auth
  channels := options.channels.getD ["*"]
  deviceLabel := some (options.deviceLabel.getD guessed)

def toUrlSafe (c : Char) : Char := if (if c = '+' then '-' else c) = '/' then '_' else if c = '+' then '-' else c

theorem replaceChar_toUrlSafe (cs : List Char) :
    replaceChar '/' '_' (replaceChar '+' '-' cs) = cs.map toUrlSafe := by
  simp only [replaceChar, List.map_map]
  rfl

theorem urlSafe_digit (n : Nat) : Base64.urlSafe.digit n = toUrlSafe (Base64.standard.digit n) :=
  Base64.digit_map (by decide) rfl n

theorem map_padding {f : Char → Char} (kept : f '=' = '=') (n : Nat) :
    (Base64.padding n).map f = Base64.padding n := by
  rw [Base64.padding, List.map_replicate, kept]

theorem not_mem_urlSafe_padding : '=' ∉ Base64.urlSafe.chars := by decide

theorem arrayBufferToBase64Url_eq (bytes : List UInt8) :
    arrayBufferToBase64Url bytes = urlSafeNoPadEncode bytes := by
  rw [arrayBufferToBase64Url, replaceChar_toUrlSafe, Base64.btoa, List.map_append,
    ← Base64.encode_rename (fun n _ => urlSafe_digit n), map_padding rfl,
    Base64.rdropWhile_append_padding (Base64.not_mem_encode not_mem_urlSafe_padding bytes)]
  rfl

end RealtimePlatform.Sdk
