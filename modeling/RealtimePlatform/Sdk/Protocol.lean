import RealtimePlatform.Library.TextDecoder
import RealtimePlatform.Library.Glob
import RealtimePlatform.Backend.Frame

/-!
# Frames as the TypeScript client writes and reads them

`protocol.ts` keeps its own copy of the layout, the opcodes and the CRC of `Frame.rs`, the same byte for
byte, so they are shared here; what differs is how the two sides cut and read the text fields. A text is
a JavaScript string, that is, any sequence of UTF-16 units.
-/

namespace RealtimePlatform.Sdk
open Library Utf16
open Backend (Opcode Uuid RawFrame frameSize magic offMagic offOpcode offTenant lenTenant offChannel
  lenChannel offPayload lenPayload offCrc fromBeBytes toBeBytes crc16CcittFalse)

structure ProtocolError where
  message : String
  deriving DecidableEq

structure FrameFields where
  opcode : Opcode
  tenantId : Uuid
  channelId : Utf16 := []
  payload : Utf16 := []

structure DecodedFrame where
  opcode : Opcode
  tenantId : Uuid
  channelId : Utf16
  payload : Utf16
  raw : List UInt8

/-- `TextEncoder.encodeInto` stops before the first scalar value that does not fit. -/
def encodeInto (width : Nat) (s : Utf16) : List UInt8 :=
  (fitting width (scalars s)).flatMap String.utf8EncodeChar

def writePadded (width : Nat) (s : Utf16) : List UInt8 :=
  encodeInto width s ++ List.replicate (width - (encodeInto width s).length) 0

def readTrimmed (src : List UInt8) : Utf16 := TextDecoder.decode (src.takeWhile (· ≠ 0))

def header (fields : FrameFields) : List UInt8 :=
  toBeBytes magic ++ [fields.opcode.toByte] ++ fields.tenantId.toList ++
    writePadded lenChannel fields.channelId ++ writePadded lenPayload fields.payload

def encodeFrame (fields : FrameFields) : List UInt8 :=
  header fields ++ toBeBytes (crc16CcittFalse (header fields))

def hex (digits n : Nat) : String :=
  String.ofList ((List.replicate (digits - (Nat.toDigits 16 n).length) '0') ++ Nat.toDigits 16 n)

def decodeFrame (buf : List UInt8) : Except ProtocolError DecodedFrame :=
  if sized : buf.length = frameSize then
    let raw : RawFrame := ⟨buf, sized⟩
    let found := fromBeBytes (raw.byteAt offMagic) (raw.byteAt (offMagic + 1))
    if found ≠ magic then .error ⟨s!"magic/version invalide : 0x{hex 4 found.toNat}"⟩
    else match Opcode.tryFrom (raw.byteAt offOpcode) with
      | .error _ => .error ⟨s!"opcode inconnu : 0x{hex 2 (raw.byteAt offOpcode).toNat}"⟩
      | .ok opcode =>
        let expectedCrc := fromBeBytes (raw.byteAt offCrc) (raw.byteAt (offCrc + 1))
        let actualCrc := crc16CcittFalse (raw.slice 0 offCrc)
        if expectedCrc ≠ actualCrc then
          .error ⟨s!"CRC16 invalide : frame annonce 0x{hex 0 expectedCrc.toNat}, calculé 0x{hex 0 actualCrc.toNat}"⟩
        else .ok
          { opcode
            tenantId := raw.tenantField
            channelId := readTrimmed (raw.slice offChannel lenChannel)
            payload := readTrimmed (raw.slice offPayload lenPayload)
            raw := buf }
  else .error ⟨s!"longueur de frame invalide : {frameSize} attendus, {buf.length} reçus"⟩

def star : UInt16 := 0x2A

def globMatch (pattern candidate : Utf16) : Bool := glob star pattern candidate

/-- `mio-protocol.js` and `mio-embed.js`. -/
def WordPress.globMatch (pattern candidate : Utf16) : Bool := glob star pattern candidate

/-- `Protocol.kt`. -/
def Kotlin.globMatch (pattern candidate : Utf16) : Bool := glob star pattern candidate

/-- `protocol.py` matches code points. -/
def Python.globMatch (pattern candidate : List Char) : Bool := glob '*' pattern candidate

/-- The part of a text that a field of `width` bytes holds. -/
def cut (width : Nat) (s : Utf16) : String := String.ofList (fitting width (scalars s))

/-- What the client reads in a field where the server reads `text`. -/
def asRead (text : String) : Utf16 :=
  (TextDecoder.dropMark (text.toList.takeWhile (· ≠ '\x00'))).flatMap encodeChar

theorem utf8_cut (width : Nat) (s : Utf16) : utf8 (cut width s) = encodeInto width s := utf8_ofList _

theorem length_utf8_cut_le (width : Nat) (s : Utf16) : (utf8 (cut width s)).length ≤ width := by
  rw [utf8_cut]
  exact utf8Length_fitting_le width (scalars s)

theorem writePadded_eq_server (width : Nat) (s : Utf16) :
    writePadded width s = Library.writePadded width (cut width s) := by
  rw [Library.writePadded_of_le (length_utf8_cut_le width s), utf8_cut, writePadded]

theorem asRead_trimEndNul (text : String) : asRead (trimEndNul text) = asRead text := by
  have kept : ∀ cs : List Char, (cs.rdropWhile (· == '\x00')).takeWhile (· ≠ '\x00') =
      cs.takeWhile (· ≠ '\x00') := by
    intro cs
    induction cs using List.reverseRecOn with
    | nil => rfl
    | append_singleton cs c ih =>
        by_cases nul : c = '\x00'
        · subst nul
          rw [List.rdropWhile_concat_pos _ _ _ rfl, ih, List.takeWhile_append]
          split
          · rename_i whole
            rw [(List.takeWhile_prefix _).eq_of_length whole]
            simp
          · rfl
        · rw [List.rdropWhile_concat_neg _ _ _ (by simpa using nul)]
  rw [asRead, asRead, trimEndNul, String.toList_ofList, kept]

theorem readTrimmed_of_decodeText {bytes : List UInt8} {text : String}
    (decoded : decodeText bytes = some text) : readTrimmed bytes = asRead text := by
  unfold decodeText at decoded
  split at decoded
  · rename_i valid
    have same : trimEndNul (String.fromUTF8 _ valid) = text := Option.some.inj decoded
    have encoded : bytes = (String.fromUTF8 _ valid).toList.flatMap String.utf8EncodeChar := by
      rw [← utf8_ofList, String.ofList_toList, utf8, String.fromUTF8]
      simp
    rw [← same, asRead_trimEndNul, readTrimmed]
    conv_lhs => rw [encoded]
    rw [TextDecoder.takeWhile_encode, TextDecoder.decode_encode, asRead]
  · cases decoded

/-- The frame that the server would build for the same fields, once cut. -/
def FrameFields.builder (fields : FrameFields) : Backend.FrameBuilder where
  opcode := fields.opcode
  tenantId := fields.tenantId
  channelId := cut lenChannel fields.channelId
  payload := cut lenPayload fields.payload

def FrameFields.frame (fields : FrameFields) : Backend.Frame :=
  fields.builder.frame (length_utf8_cut_le lenChannel fields.channelId)
    (length_utf8_cut_le lenPayload fields.payload)

theorem encodeFrame_eq (fields : FrameFields) : encodeFrame fields = fields.frame.raw.toList := by
  have same : header fields = fields.builder.header := by
    rw [header, writePadded_eq_server, writePadded_eq_server, Backend.FrameBuilder.header,
      FrameFields.builder]
  rw [encodeFrame, same]
  rfl

theorem decodeFrame_raw (f : Backend.Frame) : decodeFrame f.raw.toList = .ok
    { opcode := f.opcode
      tenantId := f.tenantId
      channelId := asRead f.channelId
      payload := asRead f.payload
      raw := f.raw.toList } := by
  have sized : f.raw.toList.length = frameSize := f.raw.toList_length
  have same : (⟨f.raw.toList, sized⟩ : RawFrame) = f.raw := rfl
  rw [decodeFrame, dif_pos sized]
  simp only [same, f.magicEq, f.opcodeEq, f.crcEq, f.tenantEq, readTrimmed_of_decodeText f.channelEq,
    readTrimmed_of_decodeText f.payloadEq, ne_eq, not_true_eq_false, if_false]

theorem decodeFrame_encodeFrame (fields : FrameFields) : decodeFrame (encodeFrame fields) = .ok
    { opcode := fields.opcode
      tenantId := fields.tenantId
      channelId := asRead (cut lenChannel fields.channelId)
      payload := asRead (cut lenPayload fields.payload)
      raw := encodeFrame fields } := by
  rw [encodeFrame_eq, decodeFrame_raw]
  simp [FrameFields.frame, FrameFields.builder, Backend.FrameBuilder.frame, asRead_trimEndNul]

end RealtimePlatform.Sdk
