import RealtimePlatform.Backend.KeyRegistry
import RealtimePlatform.Library.Base64
import RealtimePlatform.Library.Utf16

/-!
# The text of a token

How `serde_json` writes the claims, and what the libraries behind `TokenService::sign` have to do with it.
-/

namespace RealtimePlatform.Backend
open Library

def escapeChar (c : Char) : List Char :=
  if c = '"' then ['\\', '"']
  else if c = '\\' then ['\\', '\\']
  else if c = '\x08' then ['\\', 'b']
  else if c = '\x09' then ['\\', 't']
  else if c = '\x0a' then ['\\', 'n']
  else if c = '\x0c' then ['\\', 'f']
  else if c = '\x0d' then ['\\', 'r']
  else if c.toNat < 0x20 then ['\\', 'u', '0', '0', hexDigit (c.toNat / 16), hexDigit (c.toNat % 16)]
  else [c]

def tenantLabel : List Char := "\x7b\"tenant_id\":\"".toList
def subLabel : List Char := "\",\"sub\":\"".toList
def expLabel : List Char := "\",\"exp\":".toList

def Claims.toJson (claims : Claims) : List Char :=
  tenantLabel ++ claims.tenantId.toText ++ subLabel ++ claims.sub.toList.flatMap escapeChar ++ expLabel ++
    Nat.toDigits 10 claims.exp ++ ['\x7d']

/-- The bytes of a `sub` inside the JSON text. -/
def escapedLength (sub : String) : Nat := Utf16.utf8Length (sub.toList.flatMap escapeChar)

/-- The libraries behave as documented: base64url without padding, a strict decoder, the JSON of these claims written
and read back, and codes of 32 bytes. -/
structure Standard (codec : TokenCodec) (encoder : TokenEncoder) (claims : Claims) : Prop where
  encode : ∀ bytes, encoder.encode bytes = String.ofList (Base64.encode Base64.urlSafe bytes)
  decode : ∀ text, codec.decode text = Base64.decode Base64.urlSafe text.toList
  toVec : encoder.toVec claims = utf8 (String.ofList claims.toJson)
  fromSlice : codec.fromSlice (utf8 (String.ofList claims.toJson)) = some claims
  mac : ∀ key message, (codec.mac key message).length = 32

theorem utf8Length_ascii {cs : List Char} (ascii : ∀ c ∈ cs, c.utf8Size = 1) : Utf16.utf8Length cs = cs.length := by
  induction cs with
  | nil => rfl
  | cons c cs ih =>
      rw [Utf16.utf8Length_cons, ascii c List.mem_cons_self, ih fun d member => ascii d (List.mem_cons_of_mem c member),
        List.length_cons, Nat.add_comm]

theorem fitting_ascii {width : Nat} {cs : List Char} (ascii : ∀ c ∈ cs, c.utf8Size = 1) :
    Utf16.fitting width cs = cs.take width := by
  induction cs generalizing width with
  | nil => simp [Utf16.fitting]
  | cons c cs ih =>
      have one := ascii c List.mem_cons_self
      cases width with
      | zero => simp [Utf16.fitting, one]
      | succ width =>
          rw [Utf16.fitting, one, if_pos (Nat.le_add_left 1 width), Nat.add_sub_cancel, List.take_succ_cons,
            ih fun d member => ascii d (List.mem_cons_of_mem c member)]

theorem utf8Size_hexDigit {n : Nat} (small : n < 16) : (hexDigit n).utf8Size = 1 := by
  have table : ∀ a : Fin 16, (hexDigit a).utf8Size = 1 := by decide
  exact table ⟨n, small⟩

theorem utf8Size_hexBytes (bytes : List UInt8) : ∀ c ∈ hexBytes bytes, c.utf8Size = 1 := by
  intro c member
  simp only [hexBytes, List.mem_flatMap, List.mem_cons, List.not_mem_nil, or_false] at member
  obtain ⟨byte, -, rfl | rfl⟩ := member
  · exact utf8Size_hexDigit (by have bound := byte.toNat_lt; omega)
  · exact utf8Size_hexDigit (Nat.mod_lt _ (by decide))

theorem utf8Size_toText (id : Uuid) : ∀ c ∈ id.toText, c.utf8Size = 1 := by
  intro c member
  have dash : ('-' : Char).utf8Size = 1 := rfl
  simp only [Uuid.toText, List.mem_append, List.mem_cons] at member
  rcases member with hex | rfl | hex | rfl | hex | rfl | hex | rfl | hex
  all_goals first | exact dash | exact utf8Size_hexBytes _ c hex

theorem utf8Size_toDigits (n : Nat) : ∀ c ∈ Nat.toDigits 10 n, c.utf8Size = 1 := by
  intro c member
  have digit := Nat.isDigit_of_mem_toDigits (by decide) (by decide) member
  have range : 48 ≤ c.toNat ∧ c.toNat ≤ 57 := by
    simpa [Char.isDigit, UInt32.le_iff_toNat_le] using digit
  have low : c.val ≤ 0x7F := UInt32.le_iff_toNat_le.mpr (show c.toNat ≤ 127 by omega)
  simp [Char.utf8Size, low]

theorem length_toJson (claims : Claims) : (utf8 (String.ofList claims.toJson)).length =
    68 + escapedLength claims.sub + (Nat.toDigits 10 claims.exp).length := by
  have tenant := utf8Length_ascii (utf8Size_toText claims.tenantId)
  have exp := utf8Length_ascii (utf8Size_toDigits claims.exp)
  rw [Uuid.length_toText] at tenant
  have size : (utf8 (String.ofList claims.toJson)).length = Utf16.utf8Length claims.toJson :=
    congrArg List.length (utf8_ofList claims.toJson)
  have before : Utf16.utf8Length tenantLabel = 14 := rfl
  have between : Utf16.utf8Length subLabel = 9 := rfl
  have after : Utf16.utf8Length expLabel = 8 := rfl
  have last : Utf16.utf8Length ['\x7d'] = 1 := rfl
  rw [size]
  simp only [Claims.toJson, Utf16.utf8Length_append, before, between, after, last, tenant, exp, escapedLength]
  omega

end RealtimePlatform.Backend
