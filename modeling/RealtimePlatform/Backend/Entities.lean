import RealtimePlatform.Backend.Frame

/-!
# Identifiers, keys and small records

Clock readings are natural numbers: `instant` is the monotonic clock and `system` the time since the
Unix epoch, both in nanoseconds.
-/

namespace RealtimePlatform.Backend
open Library

abbrev TenantId := Uuid
abbrev SessionId := Uuid

structure Clock where
  instant : Nat
  system : Nat
  deriving DecidableEq

def Clock.unixSecs (now : Clock) : Nat := now.system / 1000000000

structure ChannelKey where
  tenantId : TenantId
  channelId : String
  deriving DecidableEq

def ChannelKey.presenceKey (key : ChannelKey) : ChannelKey :=
  ⟨key.tenantId, key.channelId ++ "-presence"⟩

def unicastInboxChannel (userId : String) : String := "user:" ++ userId

structure Claims where
  tenantId : TenantId
  sub : String
  exp : Nat
  deriving DecidableEq

inductive PresenceEvent where
  | join | leave | timeout
  deriving DecidableEq

def PresenceEvent.asStr : PresenceEvent → String
  | join => "JOIN"
  | leave => "LEAVE"
  | timeout => "TIMEOUT"

structure PresenceEntry where
  tenantId : TenantId
  sessionId : SessionId
  sub : String
  channels : List String
  lastSeen : Nat
  connectedAt : Nat
  deriving DecidableEq

structure RateLimitConfig where
  sessionCapacity : Nat := 20
  sessionRefillPerSec : Nat := 10
  tenantCapacity : Nat := 2000
  tenantRefillPerSec : Nat := 500

def hexDigit (n : Nat) : Char := if n < 10 then Char.ofNat (48 + n) else Char.ofNat (87 + n)

def hexBytes (bytes : List UInt8) : List Char :=
  bytes.flatMap fun byte => [hexDigit (byte.toNat / 16), hexDigit (byte.toNat % 16)]

def Uuid.toText (id : Uuid) : List Char :=
  hexBytes (id.toList.take 4) ++ '-' :: (hexBytes ((id.toList.drop 4).take 2) ++
    '-' :: (hexBytes ((id.toList.drop 6).take 2) ++ '-' :: (hexBytes ((id.toList.drop 8).take 2) ++
      '-' :: hexBytes (id.toList.drop 10))))

@[simp] theorem length_hexBytes (bytes : List UInt8) : (hexBytes bytes).length = 2 * bytes.length := by
  induction bytes with
  | nil => rfl
  | cons byte bytes ih =>
      have step : hexBytes (byte :: bytes) =
        hexDigit (byte.toNat / 16) :: hexDigit (byte.toNat % 16) :: hexBytes bytes := rfl
      simp only [step, List.length_cons, ih]
      omega

theorem hexDigit_injective {n m : Nat} (small : n < 16) (small' : m < 16)
    (same : hexDigit n = hexDigit m) : n = m := by
  have table : ∀ a b : Fin 16, hexDigit a = hexDigit b → a = b := by decide
  exact congrArg Fin.val (table ⟨n, small⟩ ⟨m, small'⟩ same)

theorem hexBytes_injective : Function.Injective hexBytes := by
  intro bytes bytes' same
  induction bytes generalizing bytes' with
  | nil =>
      have sizes := congrArg List.length same
      simp only [length_hexBytes, List.length_nil] at sizes
      exact (List.length_eq_zero_iff.mp (by omega)).symm
  | cons byte bytes ih =>
      cases bytes' with
      | nil => simp [hexBytes] at same
      | cons byte' bytes' =>
          have digits : hexDigit (byte.toNat / 16) = hexDigit (byte'.toNat / 16) ∧
              hexDigit (byte.toNat % 16) = hexDigit (byte'.toNat % 16) ∧
              hexBytes bytes = hexBytes bytes' := by
            simpa [hexBytes] using same
          have bound := byte.toNat_lt
          have bound' := byte'.toNat_lt
          have high := hexDigit_injective (by omega) (by omega) digits.1
          have low := hexDigit_injective (by omega) (by omega) digits.2.1
          have bytesEq : byte = byte' := UInt8.toNat_inj.mp (by omega)
          rw [bytesEq, ih digits.2.2]

theorem Uuid.length_toText (id : Uuid) : id.toText.length = 36 := by
  have sized : id.toList.length = 16 := id.toList_length
  simp [Uuid.toText, sized]

theorem Uuid.toText_injective : Function.Injective Uuid.toText := by
  intro id id' same
  have sized : id.toList.length = 16 := id.toList_length
  have sized' : id'.toList.length = 16 := id'.toList_length
  simp only [Uuid.toText] at same
  obtain ⟨group1, rest1⟩ := List.append_inj same (by simp [sized, sized'])
  obtain ⟨group2, rest2⟩ := List.append_inj (List.cons.inj rest1).2 (by simp [sized, sized'])
  obtain ⟨group3, rest3⟩ := List.append_inj (List.cons.inj rest2).2 (by simp [sized, sized'])
  obtain ⟨group4, rest4⟩ := List.append_inj (List.cons.inj rest3).2 (by simp [sized, sized'])
  have group5 := (List.cons.inj rest4).2
  apply Subtype.ext
  have whole : ∀ l : List UInt8, l = l.take 4 ++ ((l.drop 4).take 2 ++ ((l.drop 6).take 2 ++
      ((l.drop 8).take 2 ++ l.drop 10))) := by
    intro l
    have cut : ∀ n, (l.drop n).take 2 ++ l.drop (n + 2) = l.drop n := by
      intro n
      rw [← List.drop_drop, List.take_append_drop]
    rw [cut 8, cut 6, cut 4, List.take_append_drop]
  show id.toList = id'.toList
  rw [whole id.toList, whole id'.toList, hexBytes_injective group1, hexBytes_injective group2,
    hexBytes_injective group3, hexBytes_injective group4, hexBytes_injective group5]

end RealtimePlatform.Backend
