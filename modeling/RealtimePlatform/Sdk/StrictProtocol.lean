import RealtimePlatform.Sdk.Protocol

/-!
# Frames as the Python and the Kotlin client read them

`protocol.py` and `Protocol.kt` cut a field at its first NUL as `protocol.ts` does, but refuse bytes that
are no UTF-8, and keep a byte order mark. They differ in how an error shows a number.
-/

namespace RealtimePlatform.Sdk
open Library
open Backend (Opcode Uuid RawFrame frameSize magic offMagic offOpcode offChannel lenChannel offPayload
  lenPayload offCrc fromBeBytes crc16CcittFalse)

/-- A frame whose texts hold no surrogate, as every text that comes from UTF-8. -/
structure StrictFrame where
  opcode : Opcode
  tenantId : Uuid
  channelId : String
  payload : String
  deriving DecidableEq

def readTrimmedStrict (data : List UInt8) : Option String :=
  TextDecoder.decodeStrict (data.takeWhile (· ≠ 0))

/-- The checks that both make, with the numbers of an error written by `digits`. -/
def decodeStrictly (digits : Nat → Nat → String) (crcWidth : Nat) (data : List UInt8) :
    Except ProtocolError StrictFrame :=
  if sized : data.length = frameSize then
    let raw : RawFrame := ⟨data, sized⟩
    let found := fromBeBytes (raw.byteAt offMagic) (raw.byteAt (offMagic + 1))
    if found ≠ magic then .error ⟨s!"magic/version invalide : 0x{digits 4 found.toNat}"⟩
    else match Opcode.tryFrom (raw.byteAt offOpcode) with
      | .error _ => .error ⟨s!"opcode inconnu : 0x{digits 2 (raw.byteAt offOpcode).toNat}"⟩
      | .ok opcode =>
        let expectedCrc := fromBeBytes (raw.byteAt offCrc) (raw.byteAt (offCrc + 1))
        let actualCrc := crc16CcittFalse (raw.slice 0 offCrc)
        if expectedCrc ≠ actualCrc then
          .error ⟨s!"CRC16 invalide : frame annonce 0x{digits crcWidth expectedCrc.toNat}, calculé 0x{digits crcWidth actualCrc.toNat}"⟩
        else match readTrimmedStrict (raw.slice offChannel lenChannel),
            readTrimmedStrict (raw.slice offPayload lenPayload) with
          | some channelId, some payload => .ok ⟨opcode, raw.tenantField, channelId, payload⟩
          | _, _ => .error ⟨"section channel/payload non UTF-8"⟩
  else .error ⟨s!"longueur de frame invalide : {frameSize} attendus, {data.length} reçus"⟩

namespace Python

def upperHex (digits n : Nat) : String := (hex digits n).toUpper

def decodeFrame (data : List UInt8) : Except ProtocolError StrictFrame := decodeStrictly upperHex 4 data

end Python

namespace Kotlin

def decodeFrame (data : List UInt8) : Except ProtocolError StrictFrame := decodeStrictly hex 0 data

end Kotlin

/-- The buffer has the magic number, a known opcode and the checksum of its bytes. -/
structure Checked (raw : RawFrame) (opcode : Opcode) : Prop where
  magicEq : fromBeBytes (raw.byteAt offMagic) (raw.byteAt (offMagic + 1)) = magic
  opcodeEq : Opcode.tryFrom (raw.byteAt offOpcode) = .ok opcode
  crcEq : fromBeBytes (raw.byteAt offCrc) (raw.byteAt (offCrc + 1)) = crc16CcittFalse (raw.slice 0 offCrc)

section
variable {raw : RawFrame} {opcode : Opcode} {digits : Nat → Nat → String} {crcWidth : Nat}

theorem checked_of_parse {f : Backend.Frame} (parsed : Backend.Frame.parse raw = .ok f) :
    Checked raw f.opcode := by
  rw [← Backend.Frame.parse_ok parsed]
  exact ⟨f.magicEq, f.opcodeEq, f.crcEq⟩

theorem checked_of_decodeFrame {d : DecodedFrame} (decoded : decodeFrame raw.toList = .ok d) :
    Checked raw d.opcode := by
  have sized : raw.toList.length = frameSize := raw.toList_length
  have same : (⟨raw.toList, sized⟩ : RawFrame) = raw := rfl
  rw [decodeFrame, dif_pos sized] at decoded
  simp only [same] at decoded
  split at decoded
  · cases decoded
  rename_i magicEq
  split at decoded
  · cases decoded
  rename_i opcodeEq
  split at decoded
  · cases decoded
  rename_i crcEq
  cases decoded
  exact ⟨not_not.mp magicEq, opcodeEq, not_not.mp crcEq⟩

theorem checked_of_decodeStrictly {d : StrictFrame}
    (decoded : decodeStrictly digits crcWidth raw.toList = .ok d) : Checked raw d.opcode := by
  have sized : raw.toList.length = frameSize := raw.toList_length
  have same : (⟨raw.toList, sized⟩ : RawFrame) = raw := rfl
  rw [decodeStrictly, dif_pos sized] at decoded
  simp only [same] at decoded
  split at decoded
  · cases decoded
  rename_i magicEq
  split at decoded
  · cases decoded
  rename_i opcodeEq
  split at decoded
  · cases decoded
  rename_i crcEq
  split at decoded
  · cases decoded
    exact ⟨not_not.mp magicEq, opcodeEq, not_not.mp crcEq⟩
  · cases decoded

namespace Checked

theorem decodeFrame_eq (checked : Checked raw opcode) : decodeFrame raw.toList = .ok
    { opcode, tenantId := raw.tenantField
      channelId := readTrimmed (raw.slice offChannel lenChannel)
      payload := readTrimmed (raw.slice offPayload lenPayload), raw := raw.toList } := by
  have sized : raw.toList.length = frameSize := raw.toList_length
  have same : (⟨raw.toList, sized⟩ : RawFrame) = raw := rfl
  rw [decodeFrame, dif_pos sized]
  simp only [same, checked.magicEq, checked.opcodeEq, checked.crcEq, ne_eq, not_true_eq_false, if_false]

theorem decodeStrictly_ok (checked : Checked raw opcode) {channelId payload : String}
    (channel : readTrimmedStrict (raw.slice offChannel lenChannel) = some channelId)
    (text : readTrimmedStrict (raw.slice offPayload lenPayload) = some payload) :
    decodeStrictly digits crcWidth raw.toList = .ok ⟨opcode, raw.tenantField, channelId, payload⟩ := by
  have sized : raw.toList.length = frameSize := raw.toList_length
  have same : (⟨raw.toList, sized⟩ : RawFrame) = raw := rfl
  rw [decodeStrictly, dif_pos sized]
  simp only [same, checked.magicEq, checked.opcodeEq, checked.crcEq, ne_eq, not_true_eq_false, if_false,
    channel, text]

theorem parse_ok (checked : Checked raw opcode) {channelId payload : String}
    (channel : decodeText (raw.slice offChannel lenChannel) = some channelId)
    (text : decodeText (raw.slice offPayload lenPayload) = some payload) :
    Backend.Frame.parse raw = .ok ⟨raw, opcode, raw.tenantField, channelId, payload, checked.magicEq,
      checked.opcodeEq, checked.crcEq, rfl, channel, text⟩ :=
  Backend.Frame.parse_raw ⟨raw, opcode, raw.tenantField, channelId, payload, checked.magicEq,
    checked.opcodeEq, checked.crcEq, rfl, channel, text⟩

end Checked
end
end RealtimePlatform.Sdk
