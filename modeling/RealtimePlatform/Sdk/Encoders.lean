import RealtimePlatform.Sdk.StrictProtocol
import RealtimePlatform.Library.ByteBuffer
import RealtimePlatform.Library.Truncation
import RealtimePlatform.Library.Numeral
import RealtimePlatform.Backend.Entities

/-!
# Frames as each client writes them

`protocol.ts`, `mio-protocol.js` and `protocol.py` write the fields at their offsets into a zeroed buffer
of 256 bytes, `Protocol.kt` puts them in sequence. All compute the checksum on integers, of which no step
reaches 2 to the 17th. They differ in how a text is cut and in what a tenant id is.
-/

namespace RealtimePlatform.Sdk
open Library Utf16
open Backend (Opcode Uuid frameSize magic offMagic offOpcode offTenant offChannel lenChannel offPayload
  lenPayload offCrc)

def crcShift (crc : Nat) : Nat :=
  if crc &&& 0x8000 ≠ 0 then ((crc <<< 1) ^^^ 0x1021) &&& 0xFFFF else (crc <<< 1) &&& 0xFFFF

def crc16CcittFalse (data : List UInt8) : Nat :=
  data.foldl (fun (crc : Nat) (byte : UInt8) => crcShift^[8] (crc ^^^ (byte.toNat <<< 8))) 0xFFFF &&& 0xFFFF

def encodeAt (opcode : Opcode) (tenantId channelId payload : List UInt8) : List UInt8 :=
  let buf := List.replicate frameSize 0
  let buf := overwrite offMagic (bigEndian 2 magic.toNat) buf
  let buf := overwrite offOpcode [opcode.toByte] buf
  let buf := overwrite offTenant tenantId buf
  let buf := overwrite offChannel channelId buf
  let buf := overwrite offPayload payload buf
  overwrite offCrc (bigEndian 2 (crc16CcittFalse (buf.take offCrc))) buf

def isHexDigit (c : Char) : Bool := c.isDigit || ('a' ≤ c && c ≤ 'f') || ('A' ≤ c && c ≤ 'F')

/-- Five groups of hexadecimal digits, of 8, 4, 4, 4 and 12, with dashes between them. -/
def uuidRe (text : List Char) : Bool :=
  let groups := text.splitOn '-'
  groups.map List.length == [8, 4, 4, 4, 12] && groups.all (·.all isHexDigit)

def parseInt16 (digits : List Char) : Nat :=
  digits.foldl (fun value c => value * 16 + Numeral.digitValue c) 0

def uuidToBytes (refusal : String) (uuid : Utf16) : Except ProtocolError (List UInt8) :=
  if uuidRe (scalars uuid) then
    let hex := (scalars uuid).filter (· ≠ '-')
    .ok ((List.range 16).map fun i => UInt8.ofNat (parseInt16 ((hex.drop (i * 2)).take 2)))
  else .error ⟨refusal ++ "\"" ++ toUsv uuid ++ "\""⟩

structure ScriptFields where
  opcode : Opcode
  tenantId : Utf16
  channelId : Utf16 := []
  payload : Utf16 := []

namespace TypeScript

def uuidToBytes : Utf16 → Except ProtocolError (List UInt8) := Sdk.uuidToBytes "UUID invalide : "

def encodeFrame (fields : ScriptFields) : Except ProtocolError (List UInt8) :=
  (uuidToBytes fields.tenantId).map fun tenantId =>
    encodeAt fields.opcode tenantId (Sdk.writePadded lenChannel fields.channelId)
      (Sdk.writePadded lenPayload fields.payload)

end TypeScript

namespace WordPress

def uuidToBytes : Utf16 → Except ProtocolError (List UInt8) := Sdk.uuidToBytes "invalid UUID: "

def writePadded (width : Nat) (s : Utf16) : List UInt8 :=
  let encoded := utf8 (toUsv s)
  let len := stepBack encoded (min encoded.length width)
  overwrite 0 (encoded.take len) (List.replicate width 0)

def encodeFrame (fields : ScriptFields) : Except ProtocolError (List UInt8) :=
  (uuidToBytes fields.tenantId).map fun tenantId =>
    encodeAt fields.opcode tenantId (writePadded lenChannel fields.channelId)
      (writePadded lenPayload fields.payload)

end WordPress

namespace Python

def writePadded (width : Nat) (s : String) : List UInt8 :=
  let encoded := utf8 s
  let encoded := if width < encoded.length
    then utf8 (String.ofList (decodeIgnore (encoded.take width))) else encoded
  encoded ++ List.replicate (width - encoded.length) 0

def encodeFrame (opcode : Opcode) (tenantId : Uuid) (channelId payload : String) : List UInt8 :=
  encodeAt opcode tenantId.toList (writePadded lenChannel channelId) (writePadded lenPayload payload)

end Python

namespace Kotlin

structure UUID where
  mostSignificantBits : UInt64
  leastSignificantBits : UInt64

def UUID.ofBytes (id : Uuid) : UUID :=
  ⟨UInt64.ofNat (ofBigEndian (id.toList.take 8)), UInt64.ofNat (ofBigEndian (id.toList.drop 8))⟩

def writePadded (width : Nat) (s : String) : List UInt8 :=
  let encoded := utf8 s
  let encoded := if width < encoded.length
    then utf8 (String.ofList (decodeIgnore (encoded.take width))) else encoded
  overwrite 0 encoded (List.replicate width 0)

def encodeFrame (opcode : Opcode) (tenantId : UUID) (channelId payload : String) : List UInt8 :=
  let buf := ByteBuffer.allocate frameSize
  let buf := buf.put (bigEndian 2 magic.toNat)
  let buf := buf.put [opcode.toByte]
  let buf := buf.put (bigEndian 8 tenantId.mostSignificantBits.toNat)
  let buf := buf.put (bigEndian 8 tenantId.leastSignificantBits.toNat)
  let buf := buf.put (writePadded lenChannel channelId)
  let buf := buf.put (writePadded lenPayload payload)
  let crc := crc16CcittFalse (buf.array.take offCrc)
  (buf.put (bigEndian 2 crc)).array

end Kotlin

theorem crcShift_toNat (crc : UInt16) : crcShift crc.toNat = (Backend.crcShift crc).toNat := by
  have masked : ∀ n : Nat, n &&& 0xFFFF = n % 2 ^ 16 := fun n => Nat.and_two_pow_sub_one_eq_mod n 16
  have top : crc.toNat &&& 0x8000 ≠ 0 ↔ crc &&& 0x8000 ≠ 0 := by
    rw [ne_eq, ne_eq, ← UInt16.toNat_inj, UInt16.toNat_and]
    rfl
  unfold crcShift Backend.crcShift
  simp only [top]
  split
  · rw [masked, Nat.xor_mod_two_pow, UInt16.toNat_xor, UInt16.toNat_shiftLeft]
    rfl
  · rw [masked, UInt16.toNat_shiftLeft]
    rfl

theorem crcShift_iterate_toNat (n : Nat) (crc : UInt16) :
    crcShift^[n] crc.toNat = (Backend.crcShift^[n] crc).toNat := by
  induction n generalizing crc with
  | zero => rfl
  | succ n ih => rw [Function.iterate_succ_apply, Function.iterate_succ_apply, crcShift_toNat, ih]

theorem crc16CcittFalse_eq (data : List UInt8) :
    crc16CcittFalse data = (Backend.crc16CcittFalse data).toNat := by
  have masked : ∀ n : Nat, n &&& 0xFFFF = n % 2 ^ 16 := fun n => Nat.and_two_pow_sub_one_eq_mod n 16
  have start : (0xFFFF : Nat) = (0xFFFF : UInt16).toNat := rfl
  have folded : ∀ crc : UInt16,
      data.foldl (fun (crc : Nat) (byte : UInt8) => crcShift^[8] (crc ^^^ (byte.toNat <<< 8))) crc.toNat =
        (data.foldl (fun (crc : UInt16) (byte : UInt8) =>
          Backend.crcShift^[8] (crc ^^^ (byte.toUInt16 <<< 8))) crc).toNat := by
    induction data with
    | nil => intro crc; rfl
    | cons byte data ih =>
        intro crc
        have bound := byte.toNat_lt
        have mixed : crc.toNat ^^^ (byte.toNat <<< 8) = (crc ^^^ (byte.toUInt16 <<< 8)).toNat := by
          have high : byte.toNat <<< 8 % 2 ^ 16 = byte.toNat <<< 8 := by
            rw [Nat.shiftLeft_eq]
            omega
          rw [UInt16.toNat_xor, UInt16.toNat_shiftLeft, UInt8.toNat_toUInt16]
          exact congrArg (crc.toNat ^^^ ·) high.symm
        rw [List.foldl_cons, List.foldl_cons, mixed, crcShift_iterate_toNat, ih]
  rw [crc16CcittFalse, masked, start, folded, Nat.mod_eq_of_lt (UInt16.toNat_lt _)]
  rfl

theorem bigEndian_toNat (value : UInt16) : bigEndian 2 value.toNat = Backend.toBeBytes value := by
  have bound := value.toNat_lt
  simp only [bigEndian, Backend.toBeBytes, List.nil_append, List.singleton_append, List.cons.injEq, and_true,
    ← UInt8.toNat_inj, UInt8.toNat_ofNat', UInt16.toNat_toUInt8, UInt16.toNat_shiftRight]
  simp [Nat.shiftRight_eq_div_pow]

def headerOf (opcode : Opcode) (tenantId channelId payload : List UInt8) : List UInt8 :=
  Backend.toBeBytes magic ++ [opcode.toByte] ++ tenantId ++ channelId ++ payload

section
variable {opcode : Opcode} {tenantId channelId payload : List UInt8}

theorem length_headerOf (tenant : tenantId.length = 16) (channel : channelId.length = lenChannel)
    (text : payload.length = lenPayload) : (headerOf opcode tenantId channelId payload).length = offCrc := by
  simp [headerOf, Backend.toBeBytes, tenant, channel, text, lenChannel, lenPayload, offCrc]

theorem encodeAt_eq (tenant : tenantId.length = 16) (channel : channelId.length = lenChannel)
    (text : payload.length = lenPayload) : encodeAt opcode tenantId channelId payload =
      headerOf opcode tenantId channelId payload ++
        Backend.toBeBytes (Backend.crc16CcittFalse (headerOf opcode tenantId channelId payload)) := by
  have sized : (headerOf opcode tenantId channelId payload).length = offCrc :=
    length_headerOf tenant channel text
  have body : overwrite offPayload payload (overwrite offChannel channelId (overwrite offTenant tenantId
      (overwrite offOpcode [opcode.toByte] (overwrite offMagic (Backend.toBeBytes magic)
        (filled frameSize []))))) = filled frameSize (headerOf opcode tenantId channelId payload) := by
    rw [overwrite_filled (show ([] : List UInt8).length = offMagic from rfl), List.nil_append,
      overwrite_filled (show (Backend.toBeBytes magic).length = offOpcode from rfl),
      overwrite_filled (show (Backend.toBeBytes magic ++ [opcode.toByte]).length = offTenant from rfl),
      overwrite_filled (by simp [Backend.toBeBytes, tenant, offChannel]),
      overwrite_filled (by simp [Backend.toBeBytes, tenant, channel, offPayload, lenChannel]), headerOf]
  simp only [encodeAt, ← filled_nil, bigEndian_toNat, body, take_filled sized, overwrite_filled sized,
    crc16CcittFalse_eq]
  rw [filled_full]
  rw [List.length_append, sized]
  rfl

end
end RealtimePlatform.Sdk
