import RealtimePlatform.Sdk.StrictProtocol
import RealtimePlatform.Proof.HandlerMatching

namespace RealtimePlatform.Proof.DecoderAgreement
open Library Utf16 Backend Sdk
open HandlerMatching (Plain asRead_of_plain asRead_eq_iff)

structure Reading where
  opcode : Opcode
  tenantId : Uuid
  channelId : Utf16
  payload : Utf16
  deriving DecidableEq

namespace Reading

def ofServer (f : Frame) : Reading := ⟨f.opcode, f.tenantId, ofString f.channelId, ofString f.payload⟩

def ofTypeScript (d : DecodedFrame) : Reading := ⟨d.opcode, d.tenantId, d.channelId, d.payload⟩

def ofStrict (d : StrictFrame) : Reading := ⟨d.opcode, d.tenantId, ofString d.channelId, ofString d.payload⟩

end Reading

/-- All four decoders refuse the buffer, or all accept it and return the same. -/
structure DecodersAgree (raw : RawFrame) : Prop where
  typeScript : (decodeFrame raw.toList).toOption.map .ofTypeScript =
    (Frame.parse raw).toOption.map Reading.ofServer
  python : (Python.decodeFrame raw.toList).toOption.map .ofStrict =
    (Frame.parse raw).toOption.map Reading.ofServer
  kotlin : (Kotlin.decodeFrame raw.toList).toOption.map .ofStrict =
    (Frame.parse raw).toOption.map Reading.ofServer

/-- A field that holds a text without NUL that begins with no byte order mark, and then only NULs. -/
def Neat (field : List UInt8) : Prop :=
  ∃ text n, Plain text ∧ field = utf8 text ++ List.replicate n 0

theorem decodeText_of_neat {text : String} (plain : Plain text) (n : Nat) :
    decodeText (utf8 text ++ List.replicate n 0) = some text := by
  rw [decodeText_padded, trimEndNul_of_plain plain.1]

theorem readTrimmedStrict_of_neat {text : String} (plain : Plain text) (n : Nat) :
    readTrimmedStrict (utf8 text ++ List.replicate n 0) = some text := by
  have bytes : utf8 text = text.toList.flatMap String.utf8EncodeChar := by
    rw [← utf8_ofList, String.ofList_toList]
  have nonzero : ∀ b ∈ utf8 text, decide (b ≠ 0) = true := by
    intro b member
    refine decide_eq_true ?_
    rintro rfl
    rw [bytes] at member
    obtain ⟨c, inside, zero⟩ := List.mem_flatMap.mp member
    exact plain.1 (TextDecoder.eq_nul_of_zero_mem zero ▸ inside)
  have padding : (List.replicate n (0 : UInt8)).takeWhile (· ≠ 0) = [] := by
    cases n <;> simp [List.replicate_succ]
  rw [readTrimmedStrict, List.takeWhile_append_of_pos nonzero, padding, List.append_nil,
    TextDecoder.decodeStrict_utf8]

theorem agree_of_neat {raw : RawFrame} {opcode : Opcode} (checked : Checked raw opcode)
    (channel : Neat (raw.slice offChannel lenChannel)) (payload : Neat (raw.slice offPayload lenPayload)) :
    DecodersAgree raw := by
  obtain ⟨name, n, plainName, channelField⟩ := channel
  obtain ⟨text, m, plainText, payloadField⟩ := payload
  have channelEq : decodeText (raw.slice offChannel lenChannel) = some name := by
    rw [channelField, decodeText_of_neat plainName]
  have payloadEq : decodeText (raw.slice offPayload lenPayload) = some text := by
    rw [payloadField, decodeText_of_neat plainText]
  have strictChannel : readTrimmedStrict (raw.slice offChannel lenChannel) = some name := by
    rw [channelField, readTrimmedStrict_of_neat plainName]
  have strictPayload : readTrimmedStrict (raw.slice offPayload lenPayload) = some text := by
    rw [payloadField, readTrimmedStrict_of_neat plainText]
  have server := checked.parse_ok channelEq payloadEq
  refine ⟨?_, ?_, ?_⟩
  · rw [server, checked.decodeFrame_eq, readTrimmed_of_decodeText channelEq,
      readTrimmed_of_decodeText payloadEq, asRead_of_plain plainName, asRead_of_plain plainText]
    rfl
  · rw [server, Python.decodeFrame, checked.decodeStrictly_ok strictChannel strictPayload]
    rfl
  · rw [server, Kotlin.decodeFrame, checked.decodeStrictly_ok strictChannel strictPayload]
    rfl

theorem neat_of_same {field : List UInt8} {text : String} (decoded : decodeText field = some text)
    (same : readTrimmed field = ofString text) : Neat field := by
  rw [readTrimmed_of_decodeText decoded] at same
  obtain ⟨_, plain⟩ := (asRead_eq_iff (Nat.le_refl _)).mp same
  obtain ⟨n, padded⟩ := padded_of_decodeText decoded
  exact ⟨text, n, plain, padded⟩

theorem neat_of_agree {raw : RawFrame} {opcode : Opcode} (checked : Checked raw opcode)
    (agree : DecodersAgree raw) :
    Neat (raw.slice offChannel lenChannel) ∧ Neat (raw.slice offPayload lenPayload) := by
  have same := agree.typeScript
  rw [checked.decodeFrame_eq] at same
  obtain ⟨f, parsed, reading⟩ := Option.map_eq_some_iff.mp same.symm
  have raws : f.raw = raw := by
    cases result : Frame.parse raw with
    | error err =>
        rw [result] at parsed
        cases parsed
    | ok g =>
        rw [result] at parsed
        exact Option.some.inj parsed ▸ Frame.parse_ok result
  subst raws
  obtain ⟨_, _, channel, payload⟩ := Reading.mk.inj reading
  exact ⟨neat_of_same f.channelEq channel.symm, neat_of_same f.payloadEq payload.symm⟩

theorem agree_of_unchecked {raw : RawFrame} (unchecked : ∀ opcode, ¬ Checked raw opcode) :
    DecodersAgree raw := by
  have server : (Frame.parse raw).toOption = none := by
    cases result : Frame.parse raw with
    | error err => rfl
    | ok f => exact absurd (checked_of_parse result) (unchecked _)
  have typeScript : (decodeFrame raw.toList).toOption = none := by
    cases result : decodeFrame raw.toList with
    | error err => rfl
    | ok d => exact absurd (checked_of_decodeFrame result) (unchecked _)
  have strict : ∀ digits crcWidth, (decodeStrictly digits crcWidth raw.toList).toOption = none := by
    intro digits crcWidth
    cases result : decodeStrictly digits crcWidth raw.toList with
    | error err => rfl
    | ok d => exact absurd (checked_of_decodeStrictly result) (unchecked _)
  refine ⟨?_, ?_, ?_⟩
  · rw [server, typeScript]
    rfl
  · rw [server, Python.decodeFrame, strict]
    rfl
  · rw [server, Kotlin.decodeFrame, strict]
    rfl

/-- The decoders agree on a buffer exactly if its magic number, opcode or checksum is wrong, or both its
text fields are neat. -/
theorem decoders_agree_iff (raw : RawFrame) : DecodersAgree raw ↔
    ((∃ opcode, Checked raw opcode) →
      Neat (raw.slice offChannel lenChannel) ∧ Neat (raw.slice offPayload lenPayload)) := by
  constructor
  · rintro agree ⟨opcode, checked⟩
    exact neat_of_agree checked agree
  · intro neat
    by_cases some : ∃ opcode, Checked raw opcode
    · obtain ⟨opcode, checked⟩ := some
      exact agree_of_neat checked (neat ⟨opcode, checked⟩).1 (neat ⟨opcode, checked⟩).2
    · exact agree_of_unchecked (not_exists.mp some)

def markedFrame : FrameBuilder where
  opcode := .publish
  tenantId := List.Vector.replicate 16 0
  channelId := "room"
  payload := "\uFEFFhi"

theorem decoders_differ_marked : ¬ ∀ raw : RawFrame, DecodersAgree raw := by
  intro claim
  have agree := (claim markedFrame.build).typeScript
  have fits : (utf8 markedFrame.channelId).length ≤ lenChannel ∧
      (utf8 markedFrame.payload).length ≤ lenPayload := by
    decide
  have parsed := FrameBuilder.parse_build fits.1 fits.2
  have raws := decodeFrame_raw (markedFrame.frame fits.1 fits.2)
  rw [show (markedFrame.frame fits.1 fits.2).raw = markedFrame.build from rfl] at raws
  rw [parsed, raws] at agree
  obtain ⟨_, plain⟩ := (asRead_eq_iff (Nat.le_refl _)).mp (Reading.mk.inj (Option.some.inj agree)).2.2.2
  have marked : (trimEndNul markedFrame.payload).toList.head? = some '\uFEFF' := by
    decide
  exact plain.2 marked

end RealtimePlatform.Proof.DecoderAgreement
