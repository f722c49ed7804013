import RealtimePlatform.Sdk.RustProtocol

namespace RealtimePlatform.Proof.RustCodec
open Library Backend
open Sdk.Rust (DecodedFrame FrameFields encodeFrame decodeFrame opcodeTryFrom uuidFromBytes)

/-- The client's word for a refusal of the server. -/
def refusal : ProtocolError → Sdk.Rust.ProtocolError
  | .invalidLength actual => .invalidLength actual
  | .badMagic found => .badMagic found
  | .unknownOpcode found => .unknownOpcode found
  | .checksumMismatch expected actual => .checksumMismatch expected actual
  | .invalidUtf8 => .invalidUtf8

def fieldsOf (f : Frame) : DecodedFrame := ⟨f.opcode, f.tenantId, f.channelId, f.payload⟩

def builderOf (fields : FrameFields) : FrameBuilder :=
  ⟨fields.opcode, fields.tenantId, fields.channelId, fields.payload⟩

theorem writePadded_eq (width : Nat) (s : String) : Sdk.Rust.writePadded width s = Library.writePadded width s := by
  have short := charBoundaryUpTo_le s width
  have first : ([] : List UInt8).length = 0 := rfl
  rw [Sdk.Rust.writePadded, Library.writePadded, ← filled_nil, overwrite_filled first, filled, List.nil_append,
    List.length_take]
  split <;> rw [Nat.min_eq_left (by omega)]

theorem encodeFrame_eq (fields : FrameFields) : encodeFrame fields = (builderOf fields).build.toList := by
  have tenant : fields.tenantId.toList.length = 16 := fields.tenantId.toList_length
  have header : overwrite offPayload (Library.writePadded lenPayload fields.payload)
      (overwrite offChannel (Library.writePadded lenChannel fields.channelId)
        (overwrite offTenant fields.tenantId.toList (overwrite offOpcode [fields.opcode.toByte]
          (overwrite offMagic (toBeBytes magic) (filled frameSize []))))) =
        filled frameSize (builderOf fields).header := by
    rw [overwrite_filled (show ([] : List UInt8).length = offMagic from rfl), List.nil_append,
      overwrite_filled (show (toBeBytes magic).length = offOpcode from rfl),
      overwrite_filled (show (toBeBytes magic ++ [fields.opcode.toByte]).length = offTenant from rfl),
      overwrite_filled (by simp [toBeBytes, tenant, offChannel]),
      overwrite_filled (by simp [toBeBytes, tenant, offPayload, lenChannel])]
    rfl
  have sized := (builderOf fields).length_header
  rw [encodeFrame, FrameBuilder.toList_build]
  simp only [writePadded_eq, ← filled_nil, header, take_filled sized, overwrite_filled sized]
  rw [filled_full]
  · rfl
  · rw [List.length_append, sized]
    rfl

theorem opcodeTryFrom_eq (value : UInt8) :
    opcodeTryFrom value = (Opcode.tryFrom value).mapError refusal := by
  unfold opcodeTryFrom Opcode.tryFrom
  iterate 9
    split
    · rfl
  rfl

theorem uuidFromBytes_eq (raw : RawFrame) : uuidFromBytes (raw.slice offTenant lenTenant) = raw.tenantField := by
  have sized : (raw.slice offTenant lenTenant).length = lenTenant := raw.length_slice (by decide)
  refine List.Vector.ext fun i => ?_
  have inside : i.val < (raw.slice offTenant lenTenant).length := by
    rw [sized]
    exact i.isLt
  rw [uuidFromBytes, List.Vector.get_ofFn, List.getD_eq_getElem?_getD, List.getElem?_eq_getElem inside,
    Option.getD_some]
  rfl

theorem decodeFrame_raw (raw : RawFrame) : decodeFrame raw.toList =
    if fromBeBytes (raw.byteAt offMagic) (raw.byteAt (offMagic + 1)) ≠ magic then
      .error (.badMagic (fromBeBytes (raw.byteAt offMagic) (raw.byteAt (offMagic + 1))))
    else match (Opcode.tryFrom (raw.byteAt offOpcode)).mapError refusal with
    | .error err => .error err
    | .ok opcode =>
      if fromBeBytes (raw.byteAt offCrc) (raw.byteAt (offCrc + 1)) ≠ crc16CcittFalse (raw.slice 0 offCrc) then
        .error (.checksumMismatch (fromBeBytes (raw.byteAt offCrc) (raw.byteAt (offCrc + 1)))
          (crc16CcittFalse (raw.slice 0 offCrc)))
      else match decodeText (raw.slice offChannel lenChannel) with
      | none => .error .invalidUtf8
      | some channelId =>
        match decodeText (raw.slice offPayload lenPayload) with
        | none => .error .invalidUtf8
        | some payload => .ok ⟨opcode, raw.tenantField, channelId, payload⟩ := by
  have whole : ¬ raw.toList.length ≠ frameSize := fun other => other raw.toList_length
  rw [← opcodeTryFrom_eq, ← uuidFromBytes_eq, decodeFrame, if_neg whole]
  rfl

theorem decodeFrame_parse (raw : RawFrame) :
    decodeFrame raw.toList = ((Frame.parse raw).mapError refusal).map fieldsOf := by
  rw [decodeFrame_raw]
  symm
  unfold Frame.parse
  simp only
  split
  · rename_i magicEq
    rw [if_neg fun other => other magicEq]
    split
    · rename_i err opcodeEq
      rw [opcodeEq]
      rfl
    · rename_i opcode opcodeEq
      have accepted : (Opcode.tryFrom (raw.byteAt offOpcode)).mapError refusal = .ok opcode := by
        rw [opcodeEq]
        rfl
      simp only [accepted]
      split
      · rename_i crcEq
        rw [if_neg fun other => other crcEq]
        split
        · rename_i channelEq
          simp only [channelEq]
          rfl
        · rename_i channelId channelEq
          simp only [channelEq]
          split
          · rename_i payloadEq
            simp only [payloadEq]
            rfl
          · rename_i payload payloadEq
            simp only [payloadEq]
            rfl
      · rfl
  · rfl

theorem decodeFrame_eq (buf : List UInt8) :
    decodeFrame buf = ((Frame.parseSlice buf).mapError refusal).map fieldsOf := by
  unfold Frame.parseSlice
  split
  · rename_i sized
    exact decodeFrame_parse ⟨buf, sized⟩
  · rename_i other
    rw [decodeFrame, if_pos other]
    rfl

/-- For all fields the two encoders write the same bytes, and of every slice the two decoders make the same
fields or the same refusal. -/
theorem rust_codec_identical : (∀ fields, encodeFrame fields = (builderOf fields).build.toList) ∧
    ∀ buf, decodeFrame buf = ((Frame.parseSlice buf).mapError refusal).map fieldsOf :=
  ⟨encodeFrame_eq, decodeFrame_eq⟩

end RealtimePlatform.Proof.RustCodec
