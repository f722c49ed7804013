import RealtimePlatform.Library.PaddedText
import Mathlib.Logic.Function.Iterate

/-!
# The 256-byte frame

`Frame` is the parsed view of a raw buffer: it carries the checks that `Frame::parse` made and what its
accessors read. The offsets, the order of the checks and the errors are those of `Frame.rs`.
-/

namespace RealtimePlatform.Backend
open Library

abbrev Uuid := List.Vector UInt8 16
abbrev RawFrame := List.Vector UInt8 256

def frameSize : Nat := 256
def magic : UInt16 := 0xAA01
def offMagic : Nat := 0
def offOpcode : Nat := 2
def offTenant : Nat := 3
def lenTenant : Nat := 16
def offChannel : Nat := 19
def lenChannel : Nat := 24
def offPayload : Nat := 43
def lenPayload : Nat := 211
def offCrc : Nat := 254
def lenCrc : Nat := 2

inductive Opcode where
  | subscribe | publish | message | auth | ping | presence | replay | unicast | unsub
  deriving DecidableEq

inductive ProtocolError where
  | invalidLength (actual : Nat)
  | badMagic (found : UInt16)
  | unknownOpcode (found : UInt8)
  | checksumMismatch (expected actual : UInt16)
  | invalidUtf8
  deriving DecidableEq

namespace Opcode

def toByte : Opcode → UInt8
  | subscribe => 0x01
  | publish => 0x02
  | message => 0x03
  | auth => 0x04
  | ping => 0x05
  | presence => 0x06
  | replay => 0x07
  | unicast => 0x08
  | unsub => 0x09

def tryFrom (value : UInt8) : Except ProtocolError Opcode :=
  if value = 0x01 then .ok subscribe
  else if value = 0x02 then .ok publish
  else if value = 0x03 then .ok message
  else if value = 0x04 then .ok auth
  else if value = 0x05 then .ok ping
  else if value = 0x06 then .ok presence
  else if value = 0x07 then .ok replay
  else if value = 0x08 then .ok unicast
  else if value = 0x09 then .ok unsub
  else .error (.unknownOpcode value)

def label : Opcode → String
  | subscribe => "SUB"
  | publish => "PUB"
  | message => "MSG"
  | auth => "AUTH"
  | ping => "PING"
  | presence => "PRESENCE"
  | replay => "REPLAY"
  | unicast => "UNICAST"
  | unsub => "UNSUB"

theorem tryFrom_toByte (opcode : Opcode) : tryFrom opcode.toByte = .ok opcode := by
  cases opcode <;> rfl

theorem toByte_of_ite {value byte : UInt8} {tried opcode : Opcode} {rest : Except ProtocolError Opcode}
    (own : tried.toByte = byte) (later : rest = .ok opcode → opcode.toByte = value) :
    (if value = byte then .ok tried else rest) = .ok opcode → opcode.toByte = value := by
  intro read
  split at read
  · rename_i same
    cases read
    exact own.trans same.symm
  · exact later read

theorem toByte_of_tryFrom {value : UInt8} {opcode : Opcode} (read : tryFrom value = .ok opcode) :
    opcode.toByte = value := by
  have unknown : (.error (.unknownOpcode value) : Except ProtocolError Opcode) = .ok opcode →
      opcode.toByte = value := by
    intro failed
    cases failed
  revert read
  unfold tryFrom
  iterate 9 refine toByte_of_ite rfl ?_
  exact unknown

end Opcode

def fromBeBytes (high low : UInt8) : UInt16 := (high.toUInt16 <<< 8) ||| low.toUInt16

def toBeBytes (value : UInt16) : List UInt8 := [(value >>> 8).toUInt8, value.toUInt8]

theorem toBeBytes_fromBeBytes (high low : UInt8) : toBeBytes (fromBeBytes high low) = [high, low] := by
  have below := low.toNat_lt
  have above := high.toNat_lt
  have value : (fromBeBytes high low).toNat = high.toNat * 256 + low.toNat := by
    have joined : 2 ^ 8 * high.toNat + low.toNat = 2 ^ 8 * high.toNat ||| low.toNat :=
      Nat.two_pow_add_eq_or_of_lt (by omega) _
    have shifted : high.toNat <<< 8 % 65536 = 2 ^ 8 * high.toNat := by
      rw [Nat.shiftLeft_eq]
      omega
    simp only [fromBeBytes, UInt16.toNat_or, UInt16.toNat_shiftLeft, UInt8.toNat_toUInt16]
    simpa [shifted, Nat.mul_comm] using joined.symm
  simp only [toBeBytes, List.cons.injEq, and_true, ← UInt8.toNat_inj, UInt16.toNat_toUInt8,
    UInt16.toNat_shiftRight, value]
  constructor
  · simp [Nat.shiftRight_eq_div_pow]
    omega
  · omega

def crcShift (crc : UInt16) : UInt16 :=
  if crc &&& 0x8000 ≠ 0 then (crc <<< 1) ^^^ 0x1021 else crc <<< 1

def crc16CcittFalse (data : List UInt8) : UInt16 :=
  data.foldl (fun (crc : UInt16) (byte : UInt8) => crcShift^[8] (crc ^^^ (byte.toUInt16 <<< 8))) 0xFFFF

namespace RawFrame

/-- The bytes `[off, off + len)` of the buffer. -/
def slice (raw : RawFrame) (off len : Nat) : List UInt8 := (raw.toList.drop off).take len

def tenantField (raw : RawFrame) : Uuid :=
  ⟨raw.slice offTenant lenTenant, by simp [slice, offTenant, lenTenant]⟩

def byteAt (raw : RawFrame) (i : Nat) : UInt8 := raw.toList.getD i 0

theorem slice_of_split {raw : RawFrame} {before field after : List UInt8}
    (split : raw.toList = before ++ (field ++ after)) :
    raw.slice before.length field.length = field := by
  simp [slice, split]

theorem slice_append (raw : RawFrame) (off len more : Nat) :
    raw.slice off len ++ raw.slice (off + len) more = raw.slice off (len + more) := by
  rw [slice, slice, slice, List.take_add, List.drop_drop]

theorem slice_all (raw : RawFrame) : raw.slice 0 frameSize = raw.toList := by
  rw [slice, List.drop_zero, List.take_of_length_le]
  exact Nat.le_of_eq raw.toList_length

theorem length_slice (raw : RawFrame) {off len : Nat} (within : off + len ≤ frameSize) :
    (raw.slice off len).length = len := by
  have size : raw.toList.length = frameSize := raw.toList_length
  rw [slice, List.length_take, List.length_drop]
  omega

theorem slice_one (raw : RawFrame) {off : Nat} (within : off < frameSize) :
    raw.slice off 1 = [raw.byteAt off] := by
  have inside : off < raw.toList.length := Nat.lt_of_lt_of_eq within raw.toList_length.symm
  rw [slice, List.drop_eq_getElem_cons inside, List.take_succ_cons, List.take_zero, byteAt,
    List.getD_eq_getElem?_getD, List.getElem?_eq_getElem inside, Option.getD_some]

theorem slice_two (raw : RawFrame) {off : Nat} (within : off + 1 < frameSize) :
    raw.slice off 2 = [raw.byteAt off, raw.byteAt (off + 1)] := by
  rw [← slice_append raw off 1 1, slice_one raw (by omega), slice_one raw within]
  rfl

theorem byteAt_of_split {raw : RawFrame} {before after : List UInt8} {byte : UInt8}
    (split : raw.toList = before ++ byte :: after) : raw.byteAt before.length = byte := by
  simp [byteAt, split]

end RawFrame

structure Frame where
  raw : RawFrame
  opcode : Opcode
  tenantId : Uuid
  channelId : String
  payload : String
  magicEq : fromBeBytes (raw.byteAt offMagic) (raw.byteAt (offMagic + 1)) = magic
  opcodeEq : Opcode.tryFrom (raw.byteAt offOpcode) = .ok opcode
  crcEq : fromBeBytes (raw.byteAt offCrc) (raw.byteAt (offCrc + 1)) =
    crc16CcittFalse (raw.slice 0 offCrc)
  tenantEq : raw.tenantField = tenantId
  channelEq : decodeText (raw.slice offChannel lenChannel) = some channelId
  payloadEq : decodeText (raw.slice offPayload lenPayload) = some payload

namespace Frame

def parse (buf : RawFrame) : Except ProtocolError Frame :=
  let found := fromBeBytes (buf.byteAt offMagic) (buf.byteAt (offMagic + 1))
  if magicEq : found = magic then
    match opcodeEq : Opcode.tryFrom (buf.byteAt offOpcode) with
    | .error err => .error err
    | .ok opcode =>
      let expected := fromBeBytes (buf.byteAt offCrc) (buf.byteAt (offCrc + 1))
      let actual := crc16CcittFalse (buf.slice 0 offCrc)
      if crcEq : expected = actual then
        match channelEq : decodeText (buf.slice offChannel lenChannel) with
        | none => .error .invalidUtf8
        | some channelId =>
          match payloadEq : decodeText (buf.slice offPayload lenPayload) with
          | none => .error .invalidUtf8
          | some payload => .ok ⟨buf, opcode, buf.tenantField, channelId, payload, magicEq, opcodeEq,
              crcEq, rfl, channelEq, payloadEq⟩
      else .error (.checksumMismatch expected actual)
  else .error (.badMagic found)

def parseSlice (buf : List UInt8) : Except ProtocolError Frame :=
  if sized : buf.length = frameSize then parse ⟨buf, sized⟩
  else .error (.invalidLength buf.length)

theorem parse_ok {buf : RawFrame} {f : Frame} (parsed : parse buf = .ok f) : f.raw = buf := by
  unfold parse at parsed
  by_cases magicEq : fromBeBytes (buf.byteAt offMagic) (buf.byteAt (offMagic + 1)) = magic
  · simp only [magicEq, dite_true] at parsed
    split at parsed
    · cases parsed
    split at parsed
    · split at parsed
      · cases parsed
      split at parsed
      · cases parsed
      · cases parsed
        rfl
    · cases parsed
  · simp only [magicEq, dite_false, reduceCtorEq] at parsed

theorem parse_raw (f : Frame) : parse f.raw = .ok f := by
  obtain ⟨raw, opcode, tenantId, channelId, payload, magicEq, opcodeEq, crcEq, rfl, channelEq,
    payloadEq⟩ := f
  unfold parse
  simp only [magicEq, crcEq, dite_true]
  split
  · rename_i err failed
    rw [opcodeEq] at failed
    cases failed
  rename_i found read
  rw [opcodeEq, Except.ok.injEq] at read
  subst read
  split
  · rename_i failed
    rw [channelEq] at failed
    cases failed
  rename_i text read
  rw [channelEq, Option.some.injEq] at read
  subst read
  split
  · rename_i failed
    rw [payloadEq] at failed
    cases failed
  rename_i text read
  rw [payloadEq, Option.some.injEq] at read
  subst read
  rfl

theorem parse_eq_ok_iff {buf : RawFrame} {f : Frame} : parse buf = .ok f ↔ f.raw = buf :=
  ⟨parse_ok, fun same => same ▸ parse_raw f⟩

theorem parseSlice_raw (f : Frame) : parseSlice f.raw.toList = .ok f := by
  have sized : f.raw.toList.length = frameSize := f.raw.toList_length
  rw [parseSlice, dif_pos sized]
  exact parse_raw f

end Frame

structure FrameBuilder where
  opcode : Opcode
  tenantId : Uuid
  channelId : String := ""
  payload : String := ""

namespace FrameBuilder

def header (b : FrameBuilder) : List UInt8 :=
  toBeBytes magic ++ [b.opcode.toByte] ++ b.tenantId.toList ++ writePadded lenChannel b.channelId ++
    writePadded lenPayload b.payload

theorem length_header (b : FrameBuilder) : b.header.length = offCrc := by
  simp [header, toBeBytes, lenChannel, lenPayload, offCrc]

def build (b : FrameBuilder) : RawFrame :=
  ⟨b.header ++ toBeBytes (crc16CcittFalse b.header), by
    simp [length_header, toBeBytes, offCrc]⟩

theorem toList_build (b : FrameBuilder) :
    b.build.toList = b.header ++ toBeBytes (crc16CcittFalse b.header) := rfl

theorem fromBeBytes_toBeBytes (value : UInt16) :
    fromBeBytes (value >>> 8).toUInt8 value.toUInt8 = value := by
  apply UInt16.toNat_inj.mp
  have high : (value.toNat / 256) % 256 * 256 ||| value.toNat % 256 = value.toNat := by
    have bound := value.toNat_lt
    rw [show (value.toNat / 256) % 256 * 256 = 2 ^ 8 * (value.toNat / 256) by omega,
      ← Nat.two_pow_add_eq_or_of_lt (by omega)]
    omega
  have shifted : (value.toNat / 256) % 256 * 256 % 65536 = (value.toNat / 256) % 256 * 256 := by omega
  simpa [fromBeBytes, Nat.shiftLeft_eq, Nat.shiftRight_eq_div_pow, shifted] using high

theorem slice_channel_build (b : FrameBuilder) :
    b.build.slice offChannel lenChannel = writePadded lenChannel b.channelId := by
  have split : b.build.toList = (toBeBytes magic ++ [b.opcode.toByte] ++ b.tenantId.toList) ++
      (writePadded lenChannel b.channelId ++ (writePadded lenPayload b.payload ++
        toBeBytes (crc16CcittFalse b.header))) := by
    simp [toList_build, header]
  have found := RawFrame.slice_of_split split
  simpa [toBeBytes, lenChannel, offChannel] using found

theorem slice_payload_build (b : FrameBuilder) :
    b.build.slice offPayload lenPayload = writePadded lenPayload b.payload := by
  have split : b.build.toList = (toBeBytes magic ++ [b.opcode.toByte] ++ b.tenantId.toList ++
      writePadded lenChannel b.channelId) ++
      (writePadded lenPayload b.payload ++ toBeBytes (crc16CcittFalse b.header)) := by
    simp [toList_build, header]
  have found := RawFrame.slice_of_split split
  simpa [toBeBytes, lenChannel, lenPayload, offPayload] using found

theorem slice_tenant_build (b : FrameBuilder) :
    b.build.slice offTenant lenTenant = b.tenantId.toList := by
  have split : b.build.toList = (toBeBytes magic ++ [b.opcode.toByte]) ++ (b.tenantId.toList ++
      (writePadded lenChannel b.channelId ++ writePadded lenPayload b.payload ++
        toBeBytes (crc16CcittFalse b.header))) := by
    simp [toList_build, header]
  have found := RawFrame.slice_of_split split
  simpa [toBeBytes, offTenant, lenTenant] using found

theorem slice_header_build (b : FrameBuilder) : b.build.slice 0 offCrc = b.header := by
  have split : b.build.toList = [] ++ (b.header ++ toBeBytes (crc16CcittFalse b.header)) :=
    toList_build b
  have found := RawFrame.slice_of_split split
  rwa [length_header] at found

theorem magic_build (b : FrameBuilder) :
    fromBeBytes (b.build.byteAt offMagic) (b.build.byteAt (offMagic + 1)) = magic := by
  have split : b.build.toList = 0xAA :: 0x01 :: (b.opcode.toByte :: (b.tenantId.toList ++
      writePadded lenChannel b.channelId ++ writePadded lenPayload b.payload ++
        toBeBytes (crc16CcittFalse b.header))) := by
    have bytes : toBeBytes magic = [0xAA, 0x01] := rfl
    simp [toList_build, header, bytes]
  have high : b.build.byteAt offMagic = 0xAA := by simp [RawFrame.byteAt, split, offMagic]
  have low : b.build.byteAt (offMagic + 1) = 0x01 := by simp [RawFrame.byteAt, split, offMagic]
  rw [high, low]
  rfl

theorem byteAt_opcode_build (b : FrameBuilder) : b.build.byteAt offOpcode = b.opcode.toByte := by
  have split : b.build.toList = toBeBytes magic ++ b.opcode.toByte :: (b.tenantId.toList ++
      writePadded lenChannel b.channelId ++ writePadded lenPayload b.payload ++
        toBeBytes (crc16CcittFalse b.header)) := by
    simp [toList_build, header]
  exact RawFrame.byteAt_of_split split

theorem crc_build (b : FrameBuilder) :
    fromBeBytes (b.build.byteAt offCrc) (b.build.byteAt (offCrc + 1)) =
      crc16CcittFalse b.header := by
  have start : b.build.toList = b.header ++ (crc16CcittFalse b.header >>> 8).toUInt8 ::
      [(crc16CcittFalse b.header).toUInt8] := toList_build b
  have high := RawFrame.byteAt_of_split start
  have split : b.build.toList = (b.header ++ [(crc16CcittFalse b.header >>> 8).toUInt8]) ++
      (crc16CcittFalse b.header).toUInt8 :: [] := by
    simp [toList_build, toBeBytes]
  have low := RawFrame.byteAt_of_split split
  rw [List.length_append, length_header, List.length_singleton] at low
  rw [length_header] at high
  rw [high, low, fromBeBytes_toBeBytes]

/-- The parsed view of a built frame whose texts fit their fields. -/
def frame (b : FrameBuilder) (channelFits : (utf8 b.channelId).length ≤ lenChannel)
    (payloadFits : (utf8 b.payload).length ≤ lenPayload) : Frame where
  raw := b.build
  opcode := b.opcode
  tenantId := b.tenantId
  channelId := trimEndNul b.channelId
  payload := trimEndNul b.payload
  magicEq := magic_build b
  opcodeEq := by rw [byteAt_opcode_build, Opcode.tryFrom_toByte]
  crcEq := by rw [crc_build, slice_header_build]
  tenantEq := Subtype.ext (slice_tenant_build b)
  channelEq := by rw [slice_channel_build, decodeText_writePadded channelFits]
  payloadEq := by rw [slice_payload_build, decodeText_writePadded payloadFits]

theorem parse_build {b : FrameBuilder} (channelFits : (utf8 b.channelId).length ≤ lenChannel)
    (payloadFits : (utf8 b.payload).length ≤ lenPayload) :
    Frame.parse b.build = .ok (b.frame channelFits payloadFits) :=
  Frame.parse_raw (b.frame channelFits payloadFits)

end FrameBuilder

end RealtimePlatform.Backend
