import RealtimePlatform.Backend.Frame
import RealtimePlatform.Library.ShiftRegister

namespace RealtimePlatform.Proof.ErrorDetection
open Library Library.ShiftRegister Backend Polynomial

/-- The generator of CRC-16/CCITT-FALSE. -/
noncomputable def ccittFalse : (ZMod 2)[X] := X ^ 16 + X ^ 12 + X ^ 5 + 1

def bits (bytes : List UInt8) : List Bool := bitsOf (bytes.map UInt8.toBitVec)

def Differ (raw raw' : RawFrame) (i : Nat) : Prop := (bits raw.toList)[i]? ≠ (bits raw'.toList)[i]?

/-- Bits are changed only within a window of sixteen. -/
def Burst (raw raw' : RawFrame) : Prop := ∃ first, ∀ i, Differ raw raw' i → first ≤ i ∧ i < first + 16

/-- Exactly two bits are changed. -/
def TwoBits (raw raw' : RawFrame) : Prop := ∃ i j, i ≠ j ∧ ∀ k, Differ raw raw' k ↔ k = i ∨ k = j

def feedback : BitVec 16 := 0x1021#16

theorem generator_feedback : generator feedback = ccittFalse := by
  have taps : poly feedback = X ^ 12 + X ^ 5 + 1 := by
    simp [poly, Finset.sum_range_succ, feedback, bit]
    ring
  rw [generator, taps, ccittFalse]
  ring

theorem msb_iff (crc : UInt16) : crc &&& 0x8000 ≠ 0 ↔ crc.toBitVec.msb = true := by
  have top : (0x8000 : UInt16).toBitVec = BitVec.twoPow 16 15 := by decide
  rw [Ne, ← UInt16.toBitVec_inj, UInt16.toBitVec_and, top, BitVec.and_twoPow, BitVec.msb_eq_getLsbD_last]
  cases crc.toBitVec.getLsbD 15 <;> decide

theorem toBitVec_crcShift (crc : UInt16) : (crcShift crc).toBitVec = shiftStep feedback crc.toBitVec := by
  unfold crcShift shiftStep
  by_cases high : crc.toBitVec.msb = true
  · rw [if_pos ((msb_iff crc).mpr high), if_pos high]
    rfl
  · rw [if_neg (mt (msb_iff crc).mp high), if_neg high]
    rfl

theorem toBitVec_iterate (n : Nat) (crc : UInt16) :
    (crcShift^[n] crc).toBitVec = (shiftStep feedback)^[n] crc.toBitVec := by
  induction n generalizing crc with
  | zero => rfl
  | succ n ih => rw [Function.iterate_succ_apply, ih, toBitVec_crcShift, Function.iterate_succ_apply]

theorem toBitVec_crc (data : List UInt8) :
    (crc16CcittFalse data).toBitVec = register feedback 0xFFFF#16 (data.map UInt8.toBitVec) := by
  induction data using List.reverseRecOn with
  | nil => rfl
  | append_singleton data byte ih =>
      have last : crc16CcittFalse (data ++ [byte]) =
          crcShift^[8] (crc16CcittFalse data ^^^ (byte.toUInt16 <<< 8)) := by
        rw [crc16CcittFalse, List.foldl_append]
        rfl
      have fed : register feedback 0xFFFF#16 ((data ++ [byte]).map UInt8.toBitVec) =
          feed feedback (register feedback 0xFFFF#16 (data.map UInt8.toBitVec)) byte.toBitVec := by
        rw [List.map_append, register, List.foldl_append]
        rfl
      rw [last, fed, toBitVec_iterate, UInt16.toBitVec_xor, ih]
      rfl

/-- What the start of the register adds to a message of `n` bytes. -/
noncomputable def start (n : Nat) : (ZMod 2)[X] := X ^ (8 * n) * poly 0xFFFF#16

theorem residue_crc (data : List UInt8) : AdjoinRoot.mk (generator feedback) (poly (crc16CcittFalse data).toBitVec) =
    AdjoinRoot.mk (generator feedback) (start data.length + X ^ 16 * ofBits (bits data)) := by
  rw [toBitVec_crc, residue_register feedback 0xFFFF#16 (by decide : 8 ≤ 16), List.length_map]
  rfl

theorem poly_crc (data : List UInt8) : poly (crc16CcittFalse data).toBitVec =
    (start data.length + X ^ 16 * ofBits (bits data)) %ₘ ccittFalse := by
  rw [toBitVec_crc, poly_register feedback 0xFFFF#16 (by decide : 8 ≤ 16), List.length_map, generator_feedback]
  rfl

theorem getLsbD_fromBeBytes (high low : UInt8) (i : Nat) : (fromBeBytes high low).toBitVec.getLsbD i =
    if 8 ≤ i then high.toBitVec.getLsbD (i - 8) else low.toBitVec.getLsbD i := by
  have joined : (fromBeBytes high low).toBitVec = high.toBitVec.setWidth 16 <<< 8 ||| low.toBitVec.setWidth 16 := rfl
  rw [joined, BitVec.getLsbD_or, BitVec.getLsbD_shiftLeft, BitVec.getLsbD_setWidth, BitVec.getLsbD_setWidth]
  split
  · rename_i above
    rw [BitVec.getLsbD_of_ge low.toBitVec i above]
    by_cases within : i < 16
    · have inside : i - 8 < 16 := by omega
      simp [within, inside, Nat.not_lt.mpr above]
    · rw [BitVec.getLsbD_of_ge high.toBitVec (i - 8) (by omega)]
      simp
  · rename_i below
    have inside : i < 16 := by omega
    simp [inside, Nat.lt_of_not_le below]

theorem poly_fromBeBytes (high low : UInt8) :
    poly (fromBeBytes high low).toBitVec = X ^ 8 * poly high.toBitVec + poly low.toBitVec := by
  ext i
  rw [coeff_add, coeff_X_pow_mul', coeff_poly, coeff_poly, coeff_poly, getLsbD_fromBeBytes]
  split
  · rename_i above
    rw [BitVec.getLsbD_of_ge low.toBitVec i above, show bit false = 0 from rfl, add_zero]
  · rw [zero_add]

theorem ofBits_bits_concat (bytes : List UInt8) (byte : UInt8) :
    ofBits (bits (bytes ++ [byte])) = X ^ 8 * ofBits (bits bytes) + poly byte.toBitVec := by
  rw [bits, List.map_append]
  exact ofBits_words (bytes.map UInt8.toBitVec) byte.toBitVec

theorem generator_dvd {raw : RawFrame} {f : Frame} (accepted : Frame.parse raw = .ok f) :
    generator feedback ∣ start offCrc + ofBits (bits raw.toList) := by
  obtain rfl := Frame.parse_ok accepted
  have whole : f.raw.toList = f.raw.slice 0 offCrc ++ [f.raw.byteAt offCrc] ++ [f.raw.byteAt (offCrc + 1)] := by
    have split := RawFrame.slice_append f.raw 0 offCrc 2
    rw [Nat.zero_add, RawFrame.slice_two f.raw (by decide)] at split
    rw [← RawFrame.slice_all f.raw, List.append_assoc]
    exact split.symm
  have length : (f.raw.slice 0 offCrc).length = offCrc := RawFrame.length_slice f.raw (by decide)
  have remainder := residue_crc (f.raw.slice 0 offCrc)
  rw [length] at remainder
  generalize start offCrc = first at remainder ⊢
  have sum : first + ofBits (bits f.raw.toList) = first + X ^ 16 * ofBits (bits (f.raw.slice 0 offCrc)) -
      poly (crc16CcittFalse (f.raw.slice 0 offCrc)).toBitVec := by
    rw [whole, ofBits_bits_concat, ofBits_bits_concat, ← f.crcEq, poly_fromBeBytes, sub_eq_add_neg, CharTwo.neg_eq]
    ring
  rw [sum]
  exact AdjoinRoot.mk_eq_mk.mp remainder.symm

variable {raw raw' : RawFrame}

theorem length_bits (raw : RawFrame) : (bits raw.toList).length = 2048 := by
  rw [bits, length_bitsOf, List.length_map, raw.toList_length]

noncomputable def difference (raw raw' : RawFrame) : (ZMod 2)[X] :=
  ofBits (bits raw.toList) - ofBits (bits raw'.toList)

theorem getD_bits (raw : RawFrame) {i : Nat} (inside : i < 2048) :
    (bits raw.toList)[2047 - i]? = some ((bits raw.toList).reverse.getD i false) := by
  have back : (bits raw.toList).length - 1 - i = 2047 - i := by rw [length_bits]
  have within : i < (bits raw.toList).reverse.length := by rw [List.length_reverse, length_bits]; exact inside
  rw [List.getD_eq_getElem?_getD, List.getElem?_eq_getElem within, Option.getD_some, ← List.getElem?_eq_getElem within,
    List.getElem?_reverse (by rwa [List.length_reverse] at within), back]

theorem coeff_difference_ne (i : Nat) :
    (difference raw raw').coeff i ≠ 0 ↔ i < 2048 ∧ Differ raw raw' (2047 - i) := by
  rw [difference, coeff_sub, coeff_ofBits, coeff_ofBits, sub_ne_zero, bit_injective.ne_iff]
  by_cases inside : i < 2048
  · rw [Differ, getD_bits raw inside, getD_bits raw' inside]
    simp [inside]
  · have short : ∀ raw : RawFrame, (bits raw.toList).reverse.getD i false = false := by
      intro raw
      rw [List.getD_eq_getElem?_getD, List.getElem?_eq_none (by rw [List.length_reverse, length_bits]; omega)]
      rfl
    rw [short, short]
    simp [inside]

theorem dvd_difference {f f' : Frame} (accepted : Frame.parse raw = .ok f) (accepted' : Frame.parse raw' = .ok f') :
    generator feedback ∣ difference raw raw' := by
  have both := dvd_sub (generator_dvd accepted) (generator_dvd accepted')
  generalize start offCrc = first at both
  rw [add_sub_add_left_eq_sub] at both
  exact both

theorem differ_lt {i : Nat} (differ : Differ raw raw' i) : i < 2048 := by
  by_contra outside
  have beyond : ∀ raw : RawFrame, (bits raw.toList)[i]? = none :=
    fun raw => List.getElem?_eq_none (by rw [length_bits]; omega)
  exact differ ((beyond raw).trans (beyond raw').symm)

theorem eq_of_not_differ (same : ∀ i, ¬ Differ raw raw' i) : raw = raw' := by
  have equal : bits raw.toList = bits raw'.toList := List.ext_getElem? fun i => not_not.mp (same i)
  have lengths : (raw.toList.map UInt8.toBitVec).length = (raw'.toList.map UInt8.toBitVec).length := by
    rw [List.length_map, List.length_map, raw.toList_length, raw'.toList_length]
  have bytes := bitsOf_inj lengths equal
  exact List.Vector.toList_injective (List.map_injective_iff.mpr (fun _ _ => UInt8.toBitVec_inj.mp) bytes)

theorem odd_feedback : feedback.getLsbD 0 = true := by decide

theorem eq_of_burst (divides : generator feedback ∣ difference raw raw') (burst : Burst raw raw') : raw = raw' := by
  obtain ⟨first, within⟩ := burst
  have none : difference raw raw' = 0 := by
    refine eq_zero_of_burst odd_feedback (e := 2032 - first) divides fun i nonzero => ?_
    obtain ⟨inside, differ⟩ := coeff_difference_ne i |>.mp nonzero
    have window := within (2047 - i) differ
    omega
  refine eq_of_not_differ fun i differ => ?_
  have inside := differ_lt differ
  have nonzero : (difference raw raw').coeff (2047 - i) ≠ 0 := by
    refine (coeff_difference_ne _).mpr ⟨by omega, ?_⟩
    rwa [Nat.sub_sub_self (by omega)]
  rw [none] at nonzero
  exact nonzero rfl

theorem not_comesBack : comesBack (shiftStep feedback) 1#16 2047 1#16 = false := by decide +kernel

theorem difference_pair {i m : Nat} (positive : 0 < m) (inside : i + m < 2048)
    (pair : ∀ k, Differ raw raw' k ↔ k = i ∨ k = i + m) :
    difference raw raw' = X ^ (2047 - (i + m)) + X ^ (2047 - (i + m) + m) := by
  have one : ∀ x : ZMod 2, x ≠ 0 → x = 1 := by decide
  ext k
  have nonzero := @coeff_difference_ne raw raw' k
  rw [pair] at nonzero
  rw [coeff_add, coeff_X_pow, coeff_X_pow]
  by_cases last : k = 2047 - (i + m)
  · have other : ¬ k = 2047 - (i + m) + m := by omega
    rw [if_pos last, if_neg other, add_zero]
    exact one _ (nonzero.mpr (by omega))
  · by_cases first : k = 2047 - (i + m) + m
    · rw [if_neg last, if_pos first, zero_add]
      exact one _ (nonzero.mpr (by omega))
    · rw [if_neg last, if_neg first, add_zero]
      by_contra other
      have place := nonzero.mp other
      omega

theorem not_pair {i m : Nat} (positive : 0 < m) (inside : i + m < 2048)
    (pair : ∀ k, Differ raw raw' k ↔ k = i ∨ k = i + m) : ¬ generator feedback ∣ difference raw raw' := by
  intro divides
  rw [difference_pair positive inside pair] at divides
  have back := comesBack_of_iterate positive (by omega : m ≤ 2047) (returns_of_pair odd_feedback divides)
  rw [not_comesBack] at back
  cases back

theorem not_two_bits (divides : generator feedback ∣ difference raw raw') : ¬ TwoBits raw raw' := by
  rintro ⟨i, j, apart, pair⟩
  have first := differ_lt ((pair i).mpr (Or.inl rfl))
  have second := differ_lt ((pair j).mpr (Or.inr rfl))
  rcases Nat.lt_or_gt_of_ne apart with before | after
  · obtain ⟨m, rfl⟩ := Nat.exists_eq_add_of_lt before
    exact not_pair (Nat.succ_pos m) second pair divides
  · obtain ⟨m, rfl⟩ := Nat.exists_eq_add_of_lt after
    exact not_pair (Nat.succ_pos m) first (fun k => (pair k).trans or_comm) divides

/-- The checksum is the remainder of the division, and a frame that is accepted is not accepted any more
when a burst of sixteen bits or two bits have been changed. -/
theorem detects_errors :
    (∀ data : List UInt8, poly (crc16CcittFalse data).toBitVec =
      (X ^ (8 * data.length) * poly 0xFFFF#16 + X ^ 16 * ofBits (bits data)) %ₘ ccittFalse) ∧
    ∀ (raw raw' : RawFrame) (f : Frame), Frame.parse raw = .ok f → raw' ≠ raw → Burst raw raw' ∨ TwoBits raw raw' →
      ∃ err, Frame.parse raw' = .error err := by
  refine ⟨poly_crc, fun raw raw' f accepted changed damage => ?_⟩
  cases read : Frame.parse raw' with
  | error err => exact ⟨err, rfl⟩
  | ok f' =>
      have divides := dvd_difference accepted read
      rcases damage with burst | two
      · exact absurd (eq_of_burst divides burst).symm changed
      · exact absurd two (not_two_bits divides)

theorem burst_of_last {bytes : List UInt8} {last last' : UInt8} (whole : raw.toList = bytes ++ [last])
    (whole' : raw'.toList = bytes ++ [last']) : Burst raw raw' := by
  refine ⟨2040, fun i differ => ?_⟩
  have inside := differ_lt differ
  refine ⟨?_, by omega⟩
  by_contra before
  have size : bytes.length = 255 := by
    have total := congrArg List.length whole
    rw [raw.toList_length, List.length_append, List.length_singleton] at total
    omega
  have same : ∀ byte : UInt8, (bits (bytes ++ [byte]))[i]? = (bits bytes)[i]? := by
    intro byte
    rw [bits, List.map_append, bitsOf, List.flatMap_append]
    refine List.getElem?_append_left ?_
    have length := length_bitsOf (bytes.map UInt8.toBitVec)
    rw [List.length_map, size] at length
    exact Nat.lt_of_lt_of_eq (Nat.lt_of_not_le before) length.symm
  exact differ (by rw [whole, whole', same, same])

def pingFrame : FrameBuilder := { opcode := .ping, tenantId := List.Vector.replicate 16 0 }

def pingParsed : Frame := pingFrame.frame (by decide) (by decide)

def pingBytes : List UInt8 := pingFrame.header ++ [(crc16CcittFalse pingFrame.header >>> 8).toUInt8]

def lastByte : UInt8 := (crc16CcittFalse pingFrame.header).toUInt8

def damaged : RawFrame := ⟨pingBytes ++ [lastByte ^^^ 1], by
  simp [pingBytes, FrameBuilder.length_header, offCrc]⟩

theorem toList_ping : pingFrame.build.toList = pingBytes ++ [lastByte] := by
  rw [pingBytes, List.append_assoc]
  exact FrameBuilder.toList_build pingFrame

theorem rejects_damaged : Frame.parse pingFrame.build = .ok pingParsed ∧ ∃ err, Frame.parse damaged = .error err := by
  have accepted : Frame.parse pingFrame.build = .ok pingParsed := FrameBuilder.parse_build (by decide) (by decide)
  have changed : damaged ≠ pingFrame.build := by
    intro same
    have bytes := congrArg List.Vector.toList same
    rw [toList_ping] at bytes
    have last : lastByte ^^^ 1 = lastByte ^^^ 0 :=
      (List.singleton_inj.mp (List.append_cancel_left bytes)).trans UInt8.xor_zero.symm
    exact absurd ((UInt8.xor_right_inj lastByte).mp last) (by decide)
  exact ⟨accepted, detects_errors.2 _ damaged _ accepted changed (Or.inl (burst_of_last toList_ping rfl))⟩

end RealtimePlatform.Proof.ErrorDetection
