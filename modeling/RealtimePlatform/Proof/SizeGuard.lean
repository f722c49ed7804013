import RealtimePlatform.Sdk.WordPressClient
import RealtimePlatform.Proof.EncoderAgreement
import RealtimePlatform.Library.Reading

namespace RealtimePlatform.Proof.SizeGuard
open Library Utf16 Sdk Sdk.WordPress
open Backend (Opcode lenPayload)

theorem codePointBytes_char (c : Char) : codePointBytes c.toNat = c.utf8Size := by
  simp only [codePointBytes, Char.utf8Size, UInt32.le_iff_toNat_le]
  rfl

theorem codePointBytes_single (u : UInt16) : codePointBytes u.toNat = (single u).utf8Size := by
  cases plain : isPlain u with
  | true => rw [← toNat_single plain, codePointBytes_char]
  | false =>
    have range : 0xD800 ≤ u.toNat := by
      cases high : isHigh u with
      | true =>
        simp only [isHigh, Bool.and_eq_true, decide_eq_true_eq] at high
        exact high.1
      | false =>
        have low : isLow u = true := by simpa [isPlain, high] using plain
        simp only [isLow, Bool.and_eq_true, decide_eq_true_eq] at low
        omega
    have bound := u.toNat_lt
    have three : codePointBytes u.toNat = 3 := by
      rw [codePointBytes, if_neg (by omega), if_neg (by omega), if_pos (by omega)]
    rw [three, single_of_not_plain plain]
    rfl

theorem toNat_pair {u v : UInt16} (high : isHigh u = true) (low : isLow v = true) :
    (pair u v).toNat = 0x10000 + (u.toNat - 0xD800) * 0x400 + (v.toNat - 0xDC00) := by
  simp only [isHigh, isLow, Bool.and_eq_true, decide_eq_true_eq] at high low
  refine toNat_ofNat ?_
  unfold Nat.isValidChar
  omega

theorem codePointAt_cases {s : Utf16} {i : Nat} (inside : i < s.length) :
    (∃ u v rest, s.drop i = u :: v :: rest ∧ codePointAt s i = (pair u v).toNat ∧ 0x10000 ≤ (pair u v).toNat ∧
      scalars (u :: v :: rest) = pair u v :: scalars rest) ∨
    ∃ u rest, s.drop i = u :: rest ∧ codePointAt s i = u.toNat ∧ scalars (u :: rest) = single u :: scalars rest := by
  have shape := List.drop_eq_getElem_cons inside
  have first : s.getD i 0 = s[i] := by
    rw [List.getD_eq_getElem?_getD, List.getElem?_eq_getElem inside]
    rfl
  cases later : s.drop (i + 1) with
  | nil =>
    have beyond : s.getD (i + 1) 0 = 0 := by
      rw [List.getD_eq_getElem?_getD, List.getElem?_eq_none (List.drop_eq_nil_iff.mp later)]
      rfl
    rw [later] at shape
    refine .inr ⟨_, _, shape, ?_, rfl⟩
    rw [codePointAt, first, beyond, Bool.and_comm]
    rfl
  | cons v rest =>
    have second : s.getD (i + 1) 0 = v := by
      rw [List.getD_eq_getElem?_getD, Reads.getElem?_of_drop later]
      rfl
    rw [later] at shape
    by_cases both : (isHigh s[i] && isLow v) = true
    · have kinds : isHigh s[i] = true ∧ isLow v = true := by simpa using both
      refine .inl ⟨_, _, _, shape, ?_, le_toNat_pair kinds.1 kinds.2, ?_⟩
      · rw [codePointAt, first, second, if_pos both, toNat_pair kinds.1 kinds.2]
      · rw [scalars, if_pos both]
    · refine .inr ⟨_, _, shape, ?_, ?_⟩
      · rw [codePointAt, first, second, if_neg both]
      · rw [scalars, if_neg both]

theorem countBytes_eq (s : Utf16) (i bytes : Nat) : countBytes s i bytes = bytes + utf8Length (scalars (s.drop i)) := by
  induction i, bytes using countBytes.induct s with
  | case1 i bytes inside code long ih =>
    rw [countBytes, if_pos inside, if_pos long, ih]
    obtain ⟨u, v, rest, shape, read, _, pairs⟩ | ⟨u, rest, _, read, _⟩ := codePointAt_cases inside
    · obtain ⟨_, left⟩ := Reads.of_drop (w := [u, v]) shape
      have same : code = (pair u v).toNat := read
      change s.drop (i + 1 + 1) = rest at left
      rw [left, shape, pairs, utf8Length_cons, same, codePointBytes_char, Nat.add_assoc]
    · have bound := u.toNat_lt
      have same : code = u.toNat := read
      omega
  | case2 i bytes inside code short ih =>
    rw [countBytes, if_pos inside, if_neg short, ih]
    obtain ⟨u, v, _, _, read, large, _⟩ | ⟨u, rest, shape, read, alone⟩ := codePointAt_cases inside
    · have same : code = (pair u v).toNat := read
      omega
    · obtain ⟨_, left⟩ := Reads.of_drop (w := [u]) shape
      have same : code = u.toNat := read
      change s.drop (i + 1) = rest at left
      rw [left, shape, alone, utf8Length_cons, same, codePointBytes_single, Nat.add_assoc]
  | case3 i bytes outside =>
    rw [countBytes, if_neg outside, List.drop_eq_nil_of_le (by omega)]
    rfl

theorem encodeUtf8Length_eq (s : Utf16) : encodeUtf8Length s = (utf8 (toUsv s)).length := by
  rw [encodeUtf8Length, countBytes_eq, Nat.zero_add, List.drop_zero, ← utf8ByteLength_eq]
  rfl

/-- The field does not have all the bytes of the text. -/
def Truncates (width : Nat) (s : Utf16) : Prop := ¬ utf8 (toUsv s) <+: WordPress.writePadded width s

theorem writePadded_eq (width : Nat) (s : Utf16) :
    WordPress.writePadded width s = Library.writePadded width (toUsv s) := by
  have read : WordPress.writePadded width (ofString (toUsv s)) = WordPress.writePadded width s := by
    unfold WordPress.writePadded
    rw [toUsv_ofString]
  rw [← read, WordPress.writePadded_ofString]

theorem truncates_iff (width : Nat) (s : Utf16) : Truncates width s ↔ width < (utf8 (toUsv s)).length := by
  rw [Truncates, writePadded_eq]
  constructor
  · intro cut
    by_contra fits
    rw [writePadded_of_le (Nat.le_of_not_lt fits)] at cut
    exact cut (List.prefix_append ..)
  · intro long whole
    have short := whole.length_le
    rw [length_writePadded] at short
    omega

theorem encodeFrame_ok_iff (fields : ScriptFields) :
    (∃ frame, WordPress.encodeFrame fields = .ok frame) ↔ uuidRe (scalars fields.tenantId) = true := by
  unfold WordPress.encodeFrame WordPress.uuidToBytes Sdk.uuidToBytes
  by_cases uuid : uuidRe (scalars fields.tenantId) = true
  · rw [if_pos uuid]
    exact iff_of_true ⟨_, rfl⟩ uuid
  · rw [if_neg uuid]
    exact iff_of_false (by rintro ⟨_, ⟨⟩⟩) uuid

/-- The count is of the bytes of the encoder. The size error comes exactly for a payload that would be cut, and the
only other error is the encoder's, for a tenant id that is no UUID. -/
theorem publish_throws_iff (client : MioRealtimeClient) (channelId payload : Utf16) :
    encodeUtf8Length payload = (utf8 (toUsv payload)).length ∧
      (client.publish channelId payload = .error MioRealtimeClient.tooLong ↔ Truncates lenPayload payload) ∧
      ((∃ thrown, client.publish channelId payload = .error thrown) ↔
        Truncates lenPayload payload ∨ client.ws = some .opened ∧ uuidRe (scalars client.tenantId) = false) := by
  have counted := encodeUtf8Length_eq payload
  refine ⟨counted, ?_⟩
  rw [truncates_iff, ← counted, MioRealtimeClient.publish]
  by_cases long : lenPayload < encodeUtf8Length payload
  · rw [if_pos long]
    exact ⟨iff_of_true rfl long, iff_of_true ⟨_, rfl⟩ (.inl long)⟩
  rw [if_neg long, MioRealtimeClient.sendOrQueue]
  by_cases opened : client.ws = some .opened
  · rw [if_pos opened, MioRealtimeClient.send, if_pos opened]
    have uuid := encodeFrame_ok_iff
      { opcode := .publish, tenantId := client.tenantId, channelId := channelId, payload := payload }
    cases encoded : WordPress.encodeFrame
        { opcode := .publish, tenantId := client.tenantId, channelId := channelId, payload := payload } with
    | ok frame =>
      have known := uuid.mp ⟨frame, encoded⟩
      refine ⟨iff_of_false nofun long, iff_of_false (by rintro ⟨_, ⟨⟩⟩) ?_⟩
      rintro (cut | ⟨_, unknown⟩)
      · exact long cut
      · rw [known] at unknown
        cases unknown
    | error err =>
      refine ⟨iff_of_false nofun long, iff_of_true ⟨_, rfl⟩ (.inr ⟨opened, ?_⟩)⟩
      cases known : uuidRe (scalars client.tenantId) with
      | false => rfl
      | true =>
        obtain ⟨frame, other⟩ := uuid.mpr known
        rw [encoded] at other
        cases other
  · rw [if_neg opened]
    refine ⟨iff_of_false nofun long, iff_of_false (by rintro ⟨_, ⟨⟩⟩) ?_⟩
    rintro (cut | ⟨now, _⟩)
    · exact long cut
    · exact opened now

def misconfigured : MioRealtimeClient where
  tenantId := ofString "acme"
  ws := some .opened
  pendingSends := []
  sent := []

theorem misconfigured_throws : ¬ ((∃ thrown, misconfigured.publish (ofString "room") (ofString "hi") = .error thrown) ↔
    Truncates lenPayload (ofString "hi")) := by
  have whole : ¬ Truncates lenPayload (ofString "hi") := by
    rw [truncates_iff]
    decide
  have thrown : ∃ thrown, misconfigured.publish (ofString "room") (ofString "hi") = .error thrown := by
    have short : ¬ lenPayload < encodeUtf8Length (ofString "hi") := by
      rw [encodeUtf8Length_eq]
      decide
    rw [MioRealtimeClient.publish, if_neg short]
    exact ⟨_, rfl⟩
  exact fun claimed => whole (claimed.mp thrown)

end RealtimePlatform.Proof.SizeGuard
