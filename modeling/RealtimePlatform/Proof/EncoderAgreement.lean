import RealtimePlatform.Sdk.Encoders
import RealtimePlatform.Backend.Publications

namespace RealtimePlatform.Sdk
open Library Utf16
open Backend (Opcode Uuid FrameBuilder hexDigit hexBytes frameSize lenChannel lenPayload)

theorem writePadded_ofString (width : Nat) (s : String) :
    Sdk.writePadded width (ofString s) = Library.writePadded width s := by
  have units : scalars (ofString s) = s.toList := by
    have read := congrArg String.toList (toUsv_ofString s)
    rwa [toUsv, String.toList_ofList] at read
  rw [writePadded_eq_server, cut, units, ← writePadded_fitting]

theorem WordPress.writePadded_ofString (width : Nat) (s : String) :
    WordPress.writePadded width (ofString s) = Library.writePadded width s := by
  have empty : ([] : List UInt8).length = 0 := rfl
  rw [WordPress.writePadded, toUsv_ofString, ← filled_nil, overwrite_filled empty, List.nil_append, filled,
    writePadded_eq_stepBack]
  have fits : stepBack (utf8 s) (min (utf8 s).length width) ≤ (utf8 s).length := by
    rw [stepBack_eq s (Nat.min_le_left ..)]
    exact Nat.le_trans (charBoundaryUpTo_le s _) (Nat.min_le_left ..)
  rw [List.length_take, Nat.min_eq_left fits]

theorem utf8_decodeIgnore_take (width : Nat) (s : String) :
    utf8 (String.ofList (decodeIgnore ((utf8 s).take width))) =
      utf8 (String.ofList (fitting width s.toList)) := by
  have bytes : utf8 s = s.toList.flatMap String.utf8EncodeChar := by
    rw [← utf8_ofList, String.ofList_toList]
  rw [bytes, decodeIgnore_take]

theorem Python.writePadded_eq (width : Nat) (s : String) :
    Python.writePadded width s = Library.writePadded width s := by
  by_cases long : width < (utf8 s).length
  · have fits : (utf8 (String.ofList (fitting width s.toList))).length ≤ width :=
      FrameBuilder.length_utf8_fitting_le width s
    simp only [Python.writePadded, if_pos long, utf8_decodeIgnore_take]
    rw [writePadded_fitting, writePadded_of_le fits]
  · rw [writePadded_of_le (Nat.le_of_not_lt long)]
    simp only [Python.writePadded, if_neg long]

theorem Kotlin.writePadded_eq (width : Nat) (s : String) :
    Kotlin.writePadded width s = Library.writePadded width s := by
  have empty : ([] : List UInt8).length = 0 := rfl
  rw [← Python.writePadded_eq, Kotlin.writePadded, ← filled_nil]
  simp only [overwrite_filled empty, List.nil_append]
  rfl

theorem hexDigit_spec {n : Nat} (small : n < 16) :
    isHexDigit (hexDigit n) = true ∧ Numeral.digitValue (hexDigit n) = n ∧ hexDigit n ≠ '-' := by
  have table : ∀ a : Fin 16, isHexDigit (hexDigit a) = true ∧ Numeral.digitValue (hexDigit a) = a ∧
      hexDigit a ≠ '-' := by decide
  exact table ⟨n, small⟩

theorem hexBytes_spec (bytes : List UInt8) : ∀ c ∈ hexBytes bytes, isHexDigit c = true ∧ c ≠ '-' := by
  intro c member
  simp only [hexBytes, List.mem_flatMap, List.mem_cons, List.not_mem_nil, or_false] at member
  obtain ⟨byte, -, rfl | rfl⟩ := member
  · have bound := byte.toNat_lt
    obtain ⟨hex, -, other⟩ := hexDigit_spec (show byte.toNat / 16 < 16 by omega)
    exact ⟨hex, other⟩
  · obtain ⟨hex, -, other⟩ := hexDigit_spec (Nat.mod_lt byte.toNat (show 0 < 16 by decide))
    exact ⟨hex, other⟩

theorem parsePairs_hexBytes (bytes : List UInt8) :
    ((List.range bytes.length).map fun i =>
      UInt8.ofNat (parseInt16 (((hexBytes bytes).drop (i * 2)).take 2))) = bytes := by
  induction bytes with
  | nil => rfl
  | cons byte bytes ih =>
      have bound := byte.toNat_lt
      have high := (hexDigit_spec (show byte.toNat / 16 < 16 by omega)).2.1
      have low := (hexDigit_spec (Nat.mod_lt byte.toNat (show 0 < 16 by decide))).2.1
      have digits : hexBytes (byte :: bytes) =
          hexDigit (byte.toNat / 16) :: hexDigit (byte.toNat % 16) :: hexBytes bytes := rfl
      have first : UInt8.ofNat (parseInt16 [hexDigit (byte.toNat / 16), hexDigit (byte.toNat % 16)]) = byte := by
        simp only [parseInt16, List.foldl_cons, List.foldl_nil, high, low]
        rw [Nat.zero_mul, Nat.zero_add, Nat.mul_comm, Nat.div_add_mod, UInt8.ofNat_toNat]
      have later : ∀ i, (hexBytes (byte :: bytes)).drop ((i + 1) * 2) = (hexBytes bytes).drop (i * 2) := by
        intro i
        rw [digits, Nat.succ_mul, List.drop_succ_cons, List.drop_succ_cons]
      rw [List.length_cons, List.range_succ_eq_map, List.map_cons, List.map_map]
      simp only [Function.comp_def, Nat.succ_eq_add_one, later, ih]
      rw [Nat.zero_mul, List.drop_zero, digits, List.take_succ_cons, List.take_succ_cons, List.take_zero, first]

def uuidGroups (id : Uuid) : List (List UInt8) :=
  [id.toList.take 4, (id.toList.drop 4).take 2, (id.toList.drop 6).take 2, (id.toList.drop 8).take 2,
    id.toList.drop 10]

theorem flatten_uuidGroups (id : Uuid) : (uuidGroups id).flatten = id.toList := by
  have joined : ∀ n, (id.toList.drop n).take 2 ++ id.toList.drop (n + 2) = id.toList.drop n := by
    intro n
    rw [← List.drop_drop, List.take_append_drop]
  simp only [uuidGroups, List.flatten_cons, List.flatten_nil, List.append_nil]
  rw [joined 8, joined 6, joined 4, List.take_append_drop]

theorem toText_eq (id : Uuid) : id.toText = ['-'].intercalate ((uuidGroups id).map hexBytes) := by
  simp [Backend.Uuid.toText, uuidGroups, List.intercalate]

theorem filter_toText (id : Uuid) : id.toText.filter (· ≠ '-') = hexBytes id.toList := by
  have kept : ∀ bytes : List UInt8, (hexBytes bytes).filter (· ≠ '-') = hexBytes bytes := by
    intro bytes
    rw [List.filter_eq_self]
    intro c member
    exact decide_eq_true (hexBytes_spec bytes c member).2
  have dash : decide ('-' ≠ '-') = false := by decide
  have joined : hexBytes (uuidGroups id).flatten =
      hexBytes (id.toList.take 4) ++ (hexBytes ((id.toList.drop 4).take 2) ++
        (hexBytes ((id.toList.drop 6).take 2) ++ (hexBytes ((id.toList.drop 8).take 2) ++
          hexBytes (id.toList.drop 10)))) := by
    simp [uuidGroups, hexBytes]
  rw [← flatten_uuidGroups id, joined, Backend.Uuid.toText]
  simp only [List.filter_append, List.filter_cons, kept, dash, Bool.false_eq_true, if_false]

theorem uuidRe_toText (id : Uuid) : uuidRe id.toText = true := by
  have sized : id.toList.length = 16 := id.toList_length
  have apart : ∀ group ∈ (uuidGroups id).map hexBytes, '-' ∉ group := by
    intro group member dash
    obtain ⟨bytes, -, rfl⟩ := List.mem_map.mp member
    exact (hexBytes_spec bytes '-' dash).2 rfl
  have split : id.toText.splitOn '-' = (uuidGroups id).map hexBytes := by
    rw [toText_eq, List.splitOn_intercalate '-' apart (by simp [uuidGroups])]
  have lengths : ((uuidGroups id).map hexBytes).map List.length = [8, 4, 4, 4, 12] := by
    simp [uuidGroups, sized]
  have hex : ((uuidGroups id).map hexBytes).all (·.all isHexDigit) = true := by
    rw [List.all_eq_true]
    intro group member
    obtain ⟨bytes, -, rfl⟩ := List.mem_map.mp member
    rw [List.all_eq_true]
    exact fun c here => (hexBytes_spec bytes c here).1
  rw [uuidRe, split, lengths, hex]
  rfl

/-- The text of a UUID as a client keeps it. -/
def tenantText (id : Uuid) : Utf16 := ofString (String.ofList id.toText)

theorem uuidToBytes_tenantText (refusal : String) (id : Uuid) :
    uuidToBytes refusal (tenantText id) = .ok id.toList := by
  have sized : id.toList.length = 16 := id.toList_length
  have text : scalars (tenantText id) = id.toText := by
    have read := congrArg String.toList (toUsv_ofString (String.ofList id.toText))
    rwa [toUsv, String.toList_ofList, String.toList_ofList] at read
  have bytes := parsePairs_hexBytes id.toList
  rw [sized] at bytes
  rw [uuidToBytes, text, if_pos (uuidRe_toText id)]
  simp only [filter_toText, bytes]

theorem Kotlin.bigEndian_ofBytes (id : Uuid) :
    bigEndian 8 (UUID.ofBytes id).mostSignificantBits.toNat ++
      bigEndian 8 (UUID.ofBytes id).leastSignificantBits.toNat = id.toList := by
  have sized : id.toList.length = 16 := id.toList_length
  have written : ∀ bytes : List UInt8, bytes.length = 8 →
      bigEndian 8 (UInt64.ofNat (ofBigEndian bytes)).toNat = bytes := by
    intro bytes eight
    have bound := ofBigEndian_lt bytes
    rw [eight, show 256 ^ 8 = 2 ^ 64 from rfl] at bound
    rw [UInt64.toNat_ofNat', Nat.mod_eq_of_lt bound, ← eight, bigEndian_ofBigEndian]
  rw [UUID.ofBytes, written _ (by simp [sized]), written _ (by simp [sized]), List.take_append_drop]

theorem encodeAt_build (b : FrameBuilder) : encodeAt b.opcode b.tenantId.toList
    (Library.writePadded lenChannel b.channelId) (Library.writePadded lenPayload b.payload) =
      b.build.toList := by
  rw [encodeAt_eq b.tenantId.toList_length (length_writePadded ..) (length_writePadded ..),
    FrameBuilder.toList_build]
  rfl

theorem Kotlin.encodeFrame_eq (opcode : Opcode) (id : Uuid) (channelId payload : String) :
    Kotlin.encodeFrame opcode (UUID.ofBytes id) channelId payload =
      Python.encodeFrame opcode id channelId payload := by
  have channel := length_writePadded lenChannel channelId
  have text := length_writePadded lenPayload payload
  have sized : (headerOf opcode id.toList (Library.writePadded lenChannel channelId)
      (Library.writePadded lenPayload payload)).length = Backend.offCrc :=
    length_headerOf id.toList_length channel text
  have written : ((((((ByteBuffer.allocate frameSize).put (Backend.toBeBytes Backend.magic)).put
      [opcode.toByte]).put (bigEndian 8 (UUID.ofBytes id).mostSignificantBits.toNat)).put
      (bigEndian 8 (UUID.ofBytes id).leastSignificantBits.toNat)).put
      (Library.writePadded lenChannel channelId)).put (Library.writePadded lenPayload payload) =
        ByteBuffer.after frameSize (headerOf opcode id.toList (Library.writePadded lenChannel channelId)
          (Library.writePadded lenPayload payload)) := by
    rw [ByteBuffer.allocate_eq]
    simp only [ByteBuffer.put_after, List.nil_append, headerOf]
    rw [← bigEndian_ofBytes id]
    simp only [List.append_assoc]
  rw [Python.encodeFrame, Python.writePadded_eq, Python.writePadded_eq,
    encodeAt_eq id.toList_length channel text, Kotlin.encodeFrame]
  simp only [writePadded_eq, written, ByteBuffer.put_after, ByteBuffer.array_after, take_filled sized,
    crc16CcittFalse_eq, bigEndian_toNat]
  rw [filled_full]
  rw [List.length_append, sized]
  rfl

/-- Every encoder gives the bytes of the server for a frame, whatever its texts. -/
theorem encoders_agree (b : FrameBuilder) :
    TypeScript.encodeFrame
        ⟨b.opcode, tenantText b.tenantId, ofString b.channelId, ofString b.payload⟩ = .ok b.build.toList ∧
      WordPress.encodeFrame
        ⟨b.opcode, tenantText b.tenantId, ofString b.channelId, ofString b.payload⟩ = .ok b.build.toList ∧
      Python.encodeFrame b.opcode b.tenantId b.channelId b.payload = b.build.toList ∧
      Kotlin.encodeFrame b.opcode (Kotlin.UUID.ofBytes b.tenantId) b.channelId b.payload =
        b.build.toList := by
  have python : Python.encodeFrame b.opcode b.tenantId b.channelId b.payload = b.build.toList := by
    rw [Python.encodeFrame, Python.writePadded_eq, Python.writePadded_eq, encodeAt_build]
  refine ⟨?_, ?_, python, ?_⟩
  · simp only [TypeScript.encodeFrame, TypeScript.uuidToBytes, uuidToBytes_tenantText, Except.map,
      writePadded_ofString, encodeAt_build]
  · simp only [WordPress.encodeFrame, WordPress.uuidToBytes, uuidToBytes_tenantText, Except.map,
      WordPress.writePadded_ofString, encodeAt_build]
  · rw [Kotlin.encodeFrame_eq, python]

end RealtimePlatform.Sdk
