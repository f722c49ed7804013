import RealtimePlatform.Backend.Publications

namespace RealtimePlatform.Proof.CodecRoundTrip
open Library Utf16 Backend

/-- `p` is the longest prefix of `s`, in whole characters, that fits `width` bytes. -/
structure LongestPrefix (width : Nat) (s p : String) : Prop where
  begins : p.toList <+: s.toList
  fits : (utf8 p).length ≤ width
  longest : ∀ q : String, q.toList <+: s.toList → (utf8 q).length ≤ width → q.toList <+: p.toList

theorem longestPrefix_fitting (width : Nat) (s : String) :
    LongestPrefix width s (String.ofList (fitting width s.toList)) := by
  obtain ⟨rest, split, full⟩ := fitting_append width s.toList
  refine ⟨?_, ?_, fun q begins short => ?_⟩
  · rw [String.toList_ofList]
    exact ⟨rest, split.symm⟩
  · rw [utf8_ofList]
    exact utf8Length_fitting_le width s.toList
  · rw [String.toList_ofList]
    have inside : fitting width s.toList <+: s.toList := ⟨rest, split.symm⟩
    rcases List.prefix_or_prefix_of_prefix begins inside with within | ⟨more, longer⟩
    · exact within
    · cases more with
      | nil =>
          rw [List.append_nil] at longer
          exact longer ▸ List.prefix_rfl
      | cons c more =>
          -- One more character than the longest prefix that fits is too many.
          obtain ⟨after, whole⟩ := begins
          have next := whole.trans split
          rw [← longer, List.append_assoc, List.append_cancel_left_eq] at next
          have wide := full c (by rw [← next]; rfl)
          have size : (utf8 q).length = utf8Length q.toList := by
            rw [utf8Length, ← utf8_ofList, String.ofList_toList]
          rw [size, ← longer, utf8Length_append, utf8Length_cons] at short
          omega

theorem header_of_parsed (f : Frame) : FrameBuilder.header
    { opcode := f.opcode, tenantId := f.tenantId, channelId := f.channelId, payload := f.payload } =
      f.raw.slice 0 offCrc := by
  have opening : toBeBytes magic = f.raw.slice offMagic 2 := by
    rw [← f.magicEq, toBeBytes_fromBeBytes]
    exact (f.raw.slice_two (by decide)).symm
  have opcode : [f.opcode.toByte] = f.raw.slice offOpcode 1 := by
    rw [Opcode.toByte_of_tryFrom f.opcodeEq]
    exact (f.raw.slice_one (by decide)).symm
  have tenant : f.tenantId.toList = f.raw.slice offTenant lenTenant := by
    rw [← f.tenantEq]
    rfl
  have channel : writePadded lenChannel f.channelId = f.raw.slice offChannel lenChannel := by
    have filled := writePadded_decodeText f.channelEq
    rwa [f.raw.length_slice (by decide)] at filled
  have payload : writePadded lenPayload f.payload = f.raw.slice offPayload lenPayload := by
    have filled := writePadded_decodeText f.payloadEq
    rwa [f.raw.length_slice (by decide)] at filled
  simp only [FrameBuilder.header, opening, opcode, tenant, channel, payload]
  rw [show offOpcode = offMagic + 2 from rfl, f.raw.slice_append, show offTenant = offMagic + (2 + 1) from rfl,
    f.raw.slice_append, show offChannel = offMagic + (2 + 1 + lenTenant) from rfl, f.raw.slice_append,
    show offPayload = offMagic + (2 + 1 + lenTenant + lenChannel) from rfl, f.raw.slice_append]
  rfl

theorem build_of_parsed (f : Frame) : FrameBuilder.build
    { opcode := f.opcode, tenantId := f.tenantId, channelId := f.channelId, payload := f.payload } =
      f.raw := by
  apply List.Vector.toList_injective
  have closing : toBeBytes (crc16CcittFalse (f.raw.slice 0 offCrc)) = f.raw.slice (0 + offCrc) lenCrc := by
    rw [← f.crcEq, toBeBytes_fromBeBytes]
    exact (f.raw.slice_two (by decide)).symm
  rw [FrameBuilder.toList_build, header_of_parsed, closing, f.raw.slice_append]
  exact f.raw.slice_all

/-- Every built frame parses to its opcode, its tenant and the longest prefixes of its texts that fit,
without their trailing NULs, and every buffer that parses is built from what was read in it. -/
theorem parse_build_round_trip :
    (∀ (opcode : Opcode) (tenantId : Uuid) (ch pl : String), ∃ frame : Frame,
      Frame.parse (FrameBuilder.build ⟨opcode, tenantId, ch, pl⟩) = .ok frame ∧
        frame.opcode = opcode ∧ frame.tenantId = tenantId ∧
        (∃ p, LongestPrefix lenChannel ch p ∧ frame.channelId = trimEndNul p) ∧
        ∃ p, LongestPrefix lenPayload pl p ∧ frame.payload = trimEndNul p) ∧
    ∀ (buf : RawFrame) (frame : Frame), Frame.parse buf = .ok frame →
      FrameBuilder.build ⟨frame.opcode, frame.tenantId, frame.channelId, frame.payload⟩ = buf := by
  constructor
  · intro opcode tenantId ch pl
    refine ⟨FrameBuilder.built ⟨opcode, tenantId, ch, pl⟩, ?_, rfl, rfl, ?_, ?_⟩
    · rw [← FrameBuilder.raw_built]
      exact Frame.parse_raw _
    · exact ⟨_, longestPrefix_fitting lenChannel ch, rfl⟩
    · exact ⟨_, longestPrefix_fitting lenPayload pl, rfl⟩
  · intro buf frame parsed
    rw [build_of_parsed, Frame.parse_ok parsed]

end RealtimePlatform.Proof.CodecRoundTrip
