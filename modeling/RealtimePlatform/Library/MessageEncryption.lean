import RealtimePlatform.Library.PaddedText
import RealtimePlatform.Library.ByteBuffer

/-!
# Message encryption for push

The receiver of RFC 8291 over the content coding of RFC 8188, for messages of one record. The curve, the
key derivation and the cipher are the fields of a `PushCrypto`; `Lawful` says what their documentation
promises.
-/

namespace RealtimePlatform.Library

structure PushCrypto (Secret Point : Type) where
  publicKey : Secret → Point
  encodePoint : Point → List UInt8
  decodePoint : List UInt8 → Option Point
  diffieHellman : Secret → Point → List UInt8
  expand (salt ikm info : List UInt8) (length : Nat) : Option (List UInt8)
  encrypt (key nonce plaintext : List UInt8) : Option (List UInt8)
  decrypt (key nonce ciphertext : List UInt8) : Option (List UInt8)

namespace PushCrypto

def maxPlaintext : Nat := 2 ^ 36

structure Lawful {Secret Point : Type} (c : PushCrypto Secret Point) : Prop where
  decode_encode (point : Point) : c.decodePoint (c.encodePoint point) = some point
  length_encode (point : Point) : (c.encodePoint point).length = 65
  agree (a b : Secret) : c.diffieHellman a (c.publicKey b) = c.diffieHellman b (c.publicKey a)
  expands (salt ikm info : List UInt8) {n : Nat} (short : n ≤ 255 * 32) :
    ∃ key, c.expand salt ikm info n = some key ∧ key.length = n
  decrypts {key nonce plaintext : List UInt8} (keyed : key.length = 16) (once : nonce.length = 12)
    (short : plaintext.length ≤ maxPlaintext) : ∃ ciphertext, c.encrypt key nonce plaintext = some ciphertext ∧
      ciphertext.length = plaintext.length + 16 ∧ c.decrypt key nonce ciphertext = some plaintext

end PushCrypto

theorem ofBigEndian_bigEndian {width n : Nat} (small : n < 256 ^ width) :
    ofBigEndian (bigEndian width n) = n := by
  induction width generalizing n with
  | zero =>
      rw [pow_zero, Nat.lt_one_iff] at small
      rw [small]
      rfl
  | succ width ih =>
      rw [pow_succ] at small
      rw [bigEndian, ofBigEndian_concat, ih (by omega), UInt8.toNat_ofNat']
      omega

structure CodingHeader where
  salt : List UInt8
  recordSize : Nat
  keyId : List UInt8

namespace CodingHeader

def read (body : List UInt8) : Option (CodingHeader × List UInt8) :=
  match body.drop 20 with
  | [] => none
  | idLength :: rest =>
    if rest.length < idLength.toNat then none
    else some (⟨body.take 16, ofBigEndian ((body.drop 16).take 4), rest.take idLength.toNat⟩,
      rest.drop idLength.toNat)

def write (header : CodingHeader) : List UInt8 :=
  header.salt ++ bigEndian 4 header.recordSize ++ [UInt8.ofNat header.keyId.length] ++ header.keyId

theorem read_write {header : CodingHeader} (salted : header.salt.length = 16)
    (small : header.recordSize < 256 ^ 4) (short : header.keyId.length < 256) (record : List UInt8) :
    read (header.write ++ record) = some (header, record) := by
  have before : (header.salt ++ bigEndian 4 header.recordSize).length = 20 := by simp [salted]
  have after : (header.write ++ record).drop 20 =
      UInt8.ofNat header.keyId.length :: (header.keyId ++ record) := by
    rw [write, List.append_assoc, List.append_assoc, List.drop_left' before]
    rfl
  have fits : (UInt8.ofNat header.keyId.length).toNat = header.keyId.length := by
    rw [UInt8.toNat_ofNat', Nat.mod_eq_of_lt short]
  have salt : (header.write ++ record).take 16 = header.salt := by
    simp only [write, List.append_assoc]
    exact List.take_left' salted
  have size : ((header.write ++ record).drop 16).take 4 = bigEndian 4 header.recordSize := by
    simp only [write, List.append_assoc]
    rw [List.drop_left' salted, List.take_left' (length_bigEndian 4 _)]
  rw [read, after]
  simp only [fits, salt, size, List.length_append, Nat.not_lt.mpr (Nat.le_add_right _ _), if_false,
    ofBigEndian_bigEndian small, List.take_left, List.drop_left]

end CodingHeader

/-- The last record ends with the delimiter 2 and any number of zeros. -/
def undelimited (record : List UInt8) : Option (List UInt8) :=
  let delimited := record.rdropWhile (· == 0)
  if delimited.getLast? = some 2 then some delimited.dropLast else none

theorem undelimited_concat (payload : List UInt8) : undelimited (payload ++ [2]) = some payload := by
  rw [undelimited, List.rdropWhile_concat_neg _ _ _ (by decide)]
  simp

namespace PushCrypto

variable {Secret Point : Type} (c : PushCrypto Secret Point)

def keyInfo (uaPublic asPublic : List UInt8) : List UInt8 := utf8 "WebPush: info\x00" ++ uaPublic ++ asPublic

def recordKey (shared authSecret uaPublic asPublic salt : List UInt8) : Option (List UInt8 × List UInt8) := do
  let ikm ← c.expand authSecret shared (keyInfo uaPublic asPublic) 32
  let cek ← c.expand salt ikm (utf8 "Content-Encoding: aes128gcm\x00") 16
  let nonce ← c.expand salt ikm (utf8 "Content-Encoding: nonce\x00") 12
  some (cek, nonce)

/-- What the holder of `ua` and of the authentication secret makes of a body. -/
def receive (ua : Secret) (authSecret body : List UInt8) : Option (List UInt8) := do
  let (header, record) ← CodingHeader.read body
  if header.recordSize < record.length then none
  else
    let sender ← c.decodePoint header.keyId
    let (cek, nonce) ← c.recordKey (c.diffieHellman ua sender) authSecret (c.encodePoint (c.publicKey ua))
      header.keyId header.salt
    let plaintext ← c.decrypt cek nonce record
    undelimited plaintext

variable {c}

theorem Lawful.recordKey (lawful : c.Lawful) (shared authSecret uaPublic asPublic salt : List UInt8) :
    ∃ ikm cek nonce, c.expand authSecret shared (keyInfo uaPublic asPublic) 32 = some ikm ∧
      c.expand salt ikm (utf8 "Content-Encoding: aes128gcm\x00") 16 = some cek ∧ cek.length = 16 ∧
      c.expand salt ikm (utf8 "Content-Encoding: nonce\x00") 12 = some nonce ∧ nonce.length = 12 ∧
      c.recordKey shared authSecret uaPublic asPublic salt = some (cek, nonce) := by
  obtain ⟨ikm, derived, _⟩ := lawful.expands authSecret shared (keyInfo uaPublic asPublic) (n := 32) (by decide)
  obtain ⟨cek, keyed, sized⟩ :=
    lawful.expands salt ikm (utf8 "Content-Encoding: aes128gcm\x00") (n := 16) (by decide)
  obtain ⟨nonce, drawn, sized'⟩ :=
    lawful.expands salt ikm (utf8 "Content-Encoding: nonce\x00") (n := 12) (by decide)
  refine ⟨ikm, cek, nonce, derived, keyed, sized, drawn, sized', ?_⟩
  simp [PushCrypto.recordKey, derived, keyed, drawn]

theorem Lawful.receive_sealed (lawful : c.Lawful) {ua as : Secret} {authSecret payload cek nonce record : List UInt8}
    {header : CodingHeader} (salted : header.salt.length = 16) (small : header.recordSize < 256 ^ 4)
    (named : header.keyId = c.encodePoint (c.publicKey as))
    (keyed : c.recordKey (c.diffieHellman as (c.publicKey ua)) authSecret (c.encodePoint (c.publicKey ua))
      header.keyId header.salt = some (cek, nonce))
    (sealed : c.decrypt cek nonce record = some (payload ++ [2])) :
    c.receive ua authSecret (header.write ++ record) =
      if header.recordSize < record.length then none else some payload := by
  have short : header.keyId.length < 256 := by simp [named, lawful.length_encode]
  have sender : c.decodePoint header.keyId = some (c.publicKey as) := by rw [named, lawful.decode_encode]
  rw [lawful.agree] at keyed
  unfold receive
  rw [CodingHeader.read_write salted small short]
  simp only [Option.bind_eq_bind, Option.bind_some, sender, keyed, sealed, undelimited_concat]

end PushCrypto

end RealtimePlatform.Library
