import RealtimePlatform.Library.ByteBuffer
import RealtimePlatform.Backend.ChannelRouter

/-!
# The codec of the Rust client

`protocol.rs` of the client, which promises to be that of the server bit for bit. Frames are owned values
and the buffers are slices of any length. The texts of its errors are left out: they are only logged.
-/

namespace RealtimePlatform.Sdk.Rust
open Library
open Backend (Opcode Uuid frameSize magic offMagic offOpcode offTenant lenTenant offChannel lenChannel offPayload
  lenPayload offCrc fromBeBytes toBeBytes)

inductive ProtocolError where
  | invalidLength (actual : Nat)
  | badMagic (found : UInt16)
  | unknownOpcode (found : UInt8)
  | checksumMismatch (expected actual : UInt16)
  | invalidUtf8
  deriving DecidableEq

structure DecodedFrame where
  opcode : Opcode
  tenantId : Uuid
  channelId : String
  payload : String
  deriving DecidableEq

structure FrameFields where
  opcode : Opcode
  tenantId : Uuid
  channelId : String := ""
  payload : String := ""

def opcodeTryFrom (value : UInt8) : Except ProtocolError Opcode :=
  if value = 0x01 then .ok .subscribe
  else if value = 0x02 then .ok .publish
  else if value = 0x03 then .ok .message
  else if value = 0x04 then .ok .auth
  else if value = 0x05 then .ok .ping
  else if value = 0x06 then .ok .presence
  else if value = 0x07 then .ok .replay
  else if value = 0x08 then .ok .unicast
  else if value = 0x09 then .ok .unsub
  else .error (.unknownOpcode value)

def crcShift (crc : UInt16) : UInt16 :=
  if crc &&& 0x8000 ≠ 0 then (crc <<< 1) ^^^ 0x1021 else crc <<< 1

def crc16CcittFalse (data : List UInt8) : UInt16 :=
  data.foldl (fun (crc : UInt16) (byte : UInt8) => crcShift^[8] (crc ^^^ (byte.toUInt16 <<< 8))) 0xFFFF

def writePadded (width : Nat) (s : String) : List UInt8 :=
  let bytes := utf8 s
  let take := if width < bytes.length then charBoundaryUpTo s width else bytes.length
  overwrite 0 (bytes.take take) (List.replicate width 0)

def encodeFrame (fields : FrameFields) : List UInt8 :=
  let buf := List.replicate frameSize 0
  let buf := overwrite offMagic (toBeBytes magic) buf
  let buf := overwrite offOpcode [fields.opcode.toByte] buf
  let buf := overwrite offTenant fields.tenantId.toList buf
  let buf := overwrite offChannel (writePadded lenChannel fields.channelId) buf
  let buf := overwrite offPayload (writePadded lenPayload fields.payload) buf
  overwrite offCrc (toBeBytes (crc16CcittFalse (buf.take offCrc))) buf

def slice (buf : List UInt8) (off len : Nat) : List UInt8 := (buf.drop off).take len

def uuidFromBytes (bytes : List UInt8) : Uuid := List.Vector.ofFn fun i => bytes.getD i 0

def decodeFrame (buf : List UInt8) : Except ProtocolError DecodedFrame :=
  if buf.length ≠ frameSize then .error (.invalidLength buf.length)
  else
    let found := fromBeBytes (buf.getD offMagic 0) (buf.getD (offMagic + 1) 0)
    if found ≠ magic then .error (.badMagic found)
    else match opcodeTryFrom (buf.getD offOpcode 0) with
    | .error err => .error err
    | .ok opcode =>
      let expectedCrc := fromBeBytes (buf.getD offCrc 0) (buf.getD (offCrc + 1) 0)
      let actualCrc := crc16CcittFalse (slice buf 0 offCrc)
      if expectedCrc ≠ actualCrc then .error (.checksumMismatch expectedCrc actualCrc)
      else
        let tenantId := uuidFromBytes (slice buf offTenant lenTenant)
        match decodeText (slice buf offChannel lenChannel) with
        | none => .error .invalidUtf8
        | some channelId =>
          match decodeText (slice buf offPayload lenPayload) with
          | none => .error .invalidUtf8
          | some payload => .ok ⟨opcode, tenantId, channelId, payload⟩

def globHelper : List UInt8 → List UInt8 → Bool
  | [], c => c.isEmpty
  | p :: ps, c =>
    if p = 42 then (List.range (c.length + 1)).any fun i => globHelper ps (c.drop i)
    else match c with
      | [] => false
      | b :: bs => b == p && globHelper ps bs

def globMatch (pattern candidate : String) : Bool := globHelper (utf8 pattern) (utf8 candidate)

end RealtimePlatform.Sdk.Rust
