import RealtimePlatform.Sdk.Encoders
import RealtimePlatform.Sdk.Link

/-!
# Publishing with the WordPress client

`publish` of `mio-client.js`, with the count of bytes that it refuses a payload by. A frame is queued while the
socket is not open.
-/

namespace RealtimePlatform.Sdk.WordPress
open Library Utf16
open Backend (Opcode lenPayload)

/-- `s.codePointAt(i)`, for an index in range. -/
def codePointAt (s : Utf16) (i : Nat) : Nat :=
  let first := s.getD i 0
  let second := s.getD (i + 1) 0
  if isHigh first && isLow second then 0x10000 + (first.toNat - 0xD800) * 0x400 + (second.toNat - 0xDC00)
  else first.toNat

def codePointBytes (code : Nat) : Nat :=
  if code ≤ 0x7F then 1
  else if code ≤ 0x7FF then 2
  else if code ≤ 0xFFFF then 3
  else 4

/-- The loop of `encodeUtf8Length`; a pair takes two units. -/
def countBytes (s : Utf16) (i bytes : Nat) : Nat :=
  if i < s.length then
    let code := codePointAt s i
    if 0xFFFF < code then countBytes s (i + 1 + 1) (bytes + codePointBytes code)
    else countBytes s (i + 1) (bytes + codePointBytes code)
  else bytes
termination_by s.length - i

def encodeUtf8Length (s : Utf16) : Nat := countBytes s 0 0

inductive Thrown where
  | error (message : String)
  | protocolError (err : ProtocolError)

structure MioRealtimeClient where
  tenantId : Utf16
  ws : Option ReadyState
  pendingSends : List PendingSend
  /-- What the socket was given, as a ghost. -/
  sent : List (List UInt8)

namespace MioRealtimeClient

def send (client : MioRealtimeClient) (opcode : Opcode) (channelId payload : Utf16) :
    Except Thrown MioRealtimeClient :=
  if client.ws = some .opened then
    match encodeFrame { opcode, tenantId := client.tenantId, channelId, payload } with
    | .ok frame => .ok { client with sent := client.sent ++ [frame] }
    | .error err => .error (.protocolError err)
  else .error (.error "mio-client.js: cannot send, WebSocket is not open")

def sendOrQueue (client : MioRealtimeClient) (opcode : Opcode) (channelId payload : Utf16) :
    Except Thrown MioRealtimeClient :=
  if client.ws = some .opened then client.send opcode channelId payload
  else .ok { client with pendingSends := client.pendingSends ++ [(opcode, channelId, payload)] }

def tooLong : Thrown :=
  .error s!"mio-client.js: publish() payload exceeds {lenPayload} bytes (no chunking in this lightweight client)"

def publish (client : MioRealtimeClient) (channelId payload : Utf16) : Except Thrown MioRealtimeClient :=
  if lenPayload < encodeUtf8Length payload then .error tooLong
  else client.sendOrQueue .publish channelId payload

end MioRealtimeClient
end RealtimePlatform.Sdk.WordPress
