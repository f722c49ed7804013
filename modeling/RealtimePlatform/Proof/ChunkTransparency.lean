import RealtimePlatform.Proof.Reassembly
import RealtimePlatform.Sdk.Client

namespace RealtimePlatform.Proof.ChunkTransparency
open Library Utf16 Sdk

def splits (budget used : Nat) (c : Char) : Prop := c.utf8Size = 4 ∧ used + 3 ≤ budget

instance (budget used : Nat) (c : Char) : Decidable (splits budget used c) := by
  unfold splits
  infer_instance

def cutsCleanly (budget : Nat) : Nat → List Char → Prop
  | _, [] => True
  | used, c :: cs =>
    if used + c.utf8Size ≤ budget then cutsCleanly budget (used + c.utf8Size) cs
    else ¬ splits budget used c ∧ cutsCleanly budget c.utf8Size cs

def pieceCount (budget : Nat) : Nat → List Char → Nat
  | _, [] => 1
  | used, c :: cs =>
    if used + c.utf8Size ≤ budget then pieceCount budget (used + c.utf8Size) cs
    else pieceCount budget c.utf8Size cs + 1

instance decidableCutsCleanly (budget used : Nat) (cs : List Char) : Decidable (cutsCleanly budget used cs) := by
  induction cs generalizing used with
  | nil => exact isTrue trivial
  | cons c cs ih =>
      unfold cutsCleanly
      split
      · exact ih _
      · exact @instDecidableAnd _ _ _ (ih _)

def units (cs : List Char) : Utf16 := cs.flatMap encodeChar

theorem utf8ByteLength_units_append (cs : List Char) (rest : Utf16) :
    utf8ByteLength (units cs ++ rest) = utf8Length cs + utf8ByteLength rest := by
  rw [utf8ByteLength_eq, utf8ByteLength_eq, units, scalars_flatMap_append, utf8Length_append]

theorem utf8ByteLength_units (cs : List Char) : utf8ByteLength (units cs) = utf8Length cs := by
  have sum := utf8ByteLength_units_append cs []
  rwa [List.append_nil] at sum

theorem wellFormed_units (cs : List Char) : WellFormed (units cs) := by
  have same := wellFormed_ofString (String.ofList cs)
  rwa [ofString, String.toList_ofList] at same

theorem fits_downward (text : Utf16) (budget : Nat) (i j : Int) (le : i ≤ j)
    (fits : (decide (utf8ByteLength (text.take j.toNat) ≤ budget)) = true) :
    (decide (utf8ByteLength (text.take i.toNat) ≤ budget)) = true := by
  rw [decide_eq_true_eq] at fits ⊢
  exact Nat.le_trans (utf8ByteLength_take_mono text (Int.toNat_le_toNat le)) fits

theorem bestPrefix_eq {text : Utf16} {budget k : Nat} (pos : 0 < k) (le : k ≤ text.length)
    (fits : utf8ByteLength (text.take k) ≤ budget)
    (last : k = text.length ∨ budget < utf8ByteLength (text.take (k + 1))) :
    bestPrefix text budget = k := by
  have found := bisect_eq (n := text.length) (k := k) (fits_downward text budget) (by omega) (by omega)
    (by simpa using fits) (by
    rcases last with whole | full
    · exact Or.inl (by omega)
    · exact Or.inr (by simpa [show ((k : Int) + 1).toNat = k + 1 by omega] using full))
  rw [bestPrefix, found, Int.toNat_natCast]

theorem bestPrefix_fits {text : Utf16} {budget : Nat} (some : bestPrefix text budget ≠ 0) :
    utf8ByteLength (text.take (bestPrefix text budget)) ≤ budget := by
  rcases (@bisect_spec _ (fits_downward text budget) 1 text.length 0 Int.zero_lt_one).1 with
    none | ⟨_, _, fits⟩
  · rw [bestPrefix, none] at some
    exact absurd rfl some
  · exact of_decide_eq_true fits

theorem splitByByteBudget_cons {text : Utf16} {budget : Nat} (nonempty : text ≠ []) (best : 0 < bestPrefix text budget) :
    splitByByteBudget text budget = text.take (bestPrefix text budget) ::
      splitByByteBudget (text.drop (bestPrefix text budget)) budget := by
  rw [splitByByteBudget, if_neg nonempty]
  simp only [Nat.ne_of_gt best, if_false]

theorem units_append (cs ds : List Char) : units (cs ++ ds) = units cs ++ units ds := List.flatMap_append

theorem units_cons (c : Char) (cs : List Char) : units (c :: cs) = encodeChar c ++ units cs := List.flatMap_cons

theorem take_units_append (cs : List Char) (rest : Utf16) (n : Nat) :
    (units cs ++ rest).take ((units cs).length + n) = units cs ++ rest.take n := by
  rw [List.take_append, List.take_of_length_le (by omega), Nat.add_sub_cancel_left]

theorem isHigh_single {u : UInt16} (high : isHigh u = true) : scalars [u] = [replacement] := by
  simp [scalars, single, high]

theorem utf8ByteLength_high {u : UInt16} (high : isHigh u = true) : utf8ByteLength [u] = 3 := by
  rw [utf8ByteLength_eq, isHigh_single high]
  decide

theorem next_unit {budget : Nat} {fit : List Char} {c : Char} (cs : List Char)
    (full : budget < utf8Length fit + c.utf8Size) (whole : ¬ splits budget (utf8Length fit) c) :
    budget < utf8ByteLength ((units (fit ++ c :: cs)).take ((units fit).length + 1)) := by
  rw [units_append, take_units_append, utf8ByteLength_units_append, units_cons]
  by_cases long : c.utf8Size = 4
  · obtain ⟨high, low, encoded, isHigh, _⟩ := encodeChar_long (utf8Size_eq_four_iff.mp long)
    have room : ¬ utf8Length fit + 3 ≤ budget := fun room => whole ⟨long, room⟩
    rw [encoded, List.cons_append, List.take_succ_cons, List.take_zero, utf8ByteLength_high isHigh]
    omega
  · have short : c.toNat < 0x10000 := by
      have iff := utf8Size_eq_four_iff (c := c)
      omega
    have one : (encodeChar c ++ units cs).take 1 = units [c] := by
      rw [encodeChar_short short, units_cons, encodeChar_short short]
      rfl
    rw [one, utf8ByteLength_units, utf8Length_cons, utf8Length_nil]
    omega

theorem length_units_pos {cs : List Char} (nonempty : cs ≠ []) : 0 < (units cs).length := by
  obtain ⟨c, rest, rfl⟩ := List.exists_cons_of_ne_nil nonempty
  have unit : 0 < (encodeChar c).length := by
    unfold encodeChar
    split <;> simp
  rw [units_cons, List.length_append]
  omega

theorem split_clean {budget : Nat} {fit rest : List Char} (nonempty : fit ≠ []) (fits : utf8Length fit ≤ budget)
    (full : ∀ c ∈ rest.head?, budget < utf8Length fit + c.utf8Size ∧ ¬ splits budget (utf8Length fit) c) :
    splitByByteBudget (units (fit ++ rest)) budget = units fit :: splitByByteBudget (units rest) budget := by
  have pos := length_units_pos nonempty
  have split := units_append fit rest
  have taken : (units (fit ++ rest)).take (units fit).length = units fit := by
    rw [split, List.take_left]
  have best : bestPrefix (units (fit ++ rest)) budget = (units fit).length := by
    refine bestPrefix_eq pos (by simp [split]) (by rw [taken, utf8ByteLength_units]; exact fits) ?_
    cases rest with
    | nil => exact Or.inl (by rw [List.append_nil])
    | cons c cs =>
        obtain ⟨wide, whole⟩ := full c rfl
        exact Or.inr (next_unit cs wide whole)
  have some : units (fit ++ rest) ≠ [] := by
    rw [split]
    exact List.append_ne_nil_of_left_ne_nil (List.ne_nil_of_length_pos pos) _
  rw [splitByByteBudget_cons some (best ▸ pos), best, taken, split, List.drop_left]

theorem split_torn {budget : Nat} {fit : List Char} {c : Char} (cs : List Char)
    (full : budget < utf8Length fit + c.utf8Size) (torn : splits budget (utf8Length fit) c) :
    ∃ piece ∈ splitByByteBudget (units (fit ++ c :: cs)) budget, ¬ WellFormed piece := by
  obtain ⟨long, room⟩ := torn
  obtain ⟨high, low, encoded, isHigh, _⟩ := encodeChar_long (utf8Size_eq_four_iff.mp long)
  have split : units (fit ++ c :: cs) = units fit ++ high :: low :: units cs := by
    rw [units_append, units_cons, encoded]
    rfl
  have taken : (units (fit ++ c :: cs)).take ((units fit).length + 1) = units fit ++ [high] := by
    rw [split, take_units_append]
    rfl
  have more : (units (fit ++ c :: cs)).take ((units fit).length + 1 + 1) = units (fit ++ [c]) := by
    rw [split, Nat.add_assoc, take_units_append, units_append, units_cons, encoded]
    rfl
  have best : bestPrefix (units (fit ++ c :: cs)) budget = (units fit).length + 1 := by
    refine bestPrefix_eq (Nat.succ_pos _) (by simp [split]) ?_ (Or.inr ?_)
    · rw [taken, utf8ByteLength_units_append, utf8ByteLength_high isHigh]
      exact room
    · rw [more, utf8ByteLength_units, utf8Length_append, utf8Length_cons, utf8Length_nil]
      exact full
  refine ⟨units fit ++ [high], ?_, ?_⟩
  · rw [splitByByteBudget_cons (by simp [split]) (best ▸ Nat.succ_pos _), best, taken]
    exact List.mem_cons_self
  · intro wellFormed
    have read : ofString (toUsv (units fit ++ [high])) = units fit ++ encodeChar replacement := by
      rw [toUsv, units, scalars_flatMap_append, isHigh_single isHigh, ofString, String.toList_ofList,
        List.flatMap_append, List.flatMap_singleton]
    rw [WellFormed, read, List.append_cancel_left_eq] at wellFormed
    have value : high = 0xFFFD := (List.singleton_inj.mp wellFormed).symm
    rw [value] at isHigh
    exact absurd isHigh (by decide)

theorem walk_append {budget used : Nat} (fit rest : List Char) (fits : used + utf8Length fit ≤ budget) :
    (cutsCleanly budget used (fit ++ rest) ↔ cutsCleanly budget (used + utf8Length fit) rest) ∧
      pieceCount budget used (fit ++ rest) = pieceCount budget (used + utf8Length fit) rest := by
  induction fit generalizing used with
  | nil => exact ⟨Iff.rfl, rfl⟩
  | cons c fit ih =>
      rw [utf8Length_cons, ← Nat.add_assoc] at fits ⊢
      have here : used + c.utf8Size ≤ budget := by omega
      rw [List.cons_append, cutsCleanly, pieceCount, if_pos here, if_pos here]
      exact ih fits

theorem walk_start {budget : Nat} (room : 4 ≤ budget) (c : Char) (cs : List Char) :
    (cutsCleanly budget 0 (c :: cs) ↔ cutsCleanly budget c.utf8Size cs) ∧
      pieceCount budget 0 (c :: cs) = pieceCount budget c.utf8Size cs := by
  have here : 0 + c.utf8Size ≤ budget := by
    have size := c.utf8Size_le_four
    omega
  rw [cutsCleanly, pieceCount, if_pos here, if_pos here, Nat.zero_add]
  exact ⟨Iff.rfl, rfl⟩

theorem pieces_wellFormed {budget : Nat} (room : 4 ≤ budget) (cs : List Char) (nonempty : cs ≠ []) :
    ((∀ piece ∈ splitByByteBudget (units cs) budget, WellFormed piece) ↔ cutsCleanly budget 0 cs) ∧
      (cutsCleanly budget 0 cs →
        (splitByByteBudget (units cs) budget).length = pieceCount budget 0 cs) := by
  induction size : cs.length using Nat.strong_induction_on generalizing cs with
  | _ n ih =>
  obtain ⟨rest, split, full⟩ := fitting_append budget cs
  have fits := utf8Length_fitting_le budget cs
  have some : fitting budget cs ≠ [] := by
    obtain ⟨c, cs, rfl⟩ := List.exists_cons_of_ne_nil nonempty
    have first : c.utf8Size ≤ budget := by
      have size := c.utf8Size_le_four
      omega
    rw [fitting, if_pos first]
    exact List.cons_ne_nil _ _
  generalize fitting budget cs = fit at split full fits some
  subst split
  have start : 0 + utf8Length fit ≤ budget := by omega
  obtain ⟨clean, count⟩ := walk_append fit rest start
  rw [Nat.zero_add] at clean count
  rw [clean, count]
  cases rest with
  | nil =>
      have whole := @split_clean budget fit [] some fits (by simp)
      have pieces : splitByByteBudget (units (fit ++ [])) budget = [units fit] := by
        rw [whole]
        simp [units, splitByByteBudget]
      rw [pieces]
      refine ⟨iff_of_true ?_ trivial, fun _ => rfl⟩
      intro piece member
      rw [List.mem_singleton.mp member]
      exact wellFormed_units fit
  | cons c cs =>
      have wide := full c rfl
      have tooWide : ¬ utf8Length fit + c.utf8Size ≤ budget := by omega
      obtain ⟨next, nextCount⟩ := walk_start room c cs
      rw [cutsCleanly, pieceCount, if_neg tooWide, if_neg tooWide, ← next, ← nextCount]
      by_cases torn : splits budget (utf8Length fit) c
      · obtain ⟨piece, member, broken⟩ := split_torn cs wide torn
        exact ⟨iff_of_false (fun all => broken (all piece member)) fun both => both.1 torn,
          fun both => absurd torn both.1⟩
      · have cut := @split_clean budget fit (c :: cs) some fits (by
          intro d first
          cases first
          exact ⟨wide, torn⟩)
        rw [cut]
        have shorter : (c :: cs).length < n := by
          have pos := List.length_pos_of_ne_nil some
          rw [← size, List.length_append]
          omega
        obtain ⟨iff, length⟩ := ih _ shorter (c :: cs) (List.cons_ne_nil _ _) rfl
        constructor
        · rw [List.forall_mem_cons, iff]
          exact and_congr_left' (iff_of_true (wellFormed_units fit) torn)
        · intro both
          rw [List.length_cons, length both.2]

theorem flatten_split (text : Utf16) (budget : Nat) : (splitByByteBudget text budget).flatten = text := by
  fun_induction splitByByteBudget text budget with
  | case1 => rfl
  | case2 text _ best take ih => rw [List.flatten_cons, ih, List.take_append_drop]

theorem utf8ByteLength_piece_le {text : Utf16} {budget : Nat} (room : 3 ≤ budget) :
    ∀ piece ∈ splitByByteBudget text budget, utf8ByteLength piece ≤ budget := by
  fun_induction splitByByteBudget text budget with
  | case1 => simp
  | case2 text nonempty best take ih =>
      rw [List.forall_mem_cons]
      refine ⟨?_, ih⟩
      obtain ⟨u, rest, rfl⟩ := List.exists_cons_of_ne_nil nonempty
      have one : utf8ByteLength [u] ≤ budget := by
        have size := utf8Size_single_le u
        rw [utf8ByteLength_eq, scalars, utf8Length_cons, utf8Length_nil]
        omega
      by_cases none : best = 0
      · rw [show take = 1 from if_pos none]
        exact one
      · rw [show take = best from if_neg none]
        exact bestPrefix_fits none

def normalize (piece : Utf16) : Utf16 := ofString (toUsv piece)

theorem flatten_normalize (pieces : List Utf16) :
    (pieces.map normalize).flatten = pieces.flatten ↔ ∀ piece ∈ pieces, WellFormed piece := by
  induction pieces with
  | nil => simp
  | cons piece pieces ih =>
      rw [List.map_cons, List.flatten_cons, List.flatten_cons, List.forall_mem_cons, ← ih]
      constructor
      · intro same
        exact List.append_inj same (length_ofString_toUsv piece)
      · rintro ⟨first, rest⟩
        rw [rest, normalize, first]

/-- The characters of a header take a byte each and are neither NUL nor a byte order mark. -/
def Plain (c : Char) : Prop := c.utf8Size = 1 ∧ c ≠ '\x00'

def headerChars (rolls : List.Vector (Fin 36) 4) (index total : Nat) : List Char :=
  '\x01' :: (rolls.toList.map (fun (i : Fin 36) => msgIdChars.getD i.val 'a') ++ ':' :: Nat.toDigits 10 index ++
    ':' :: Nat.toDigits 10 total ++ [':'])

theorem chunkPayload_eq (rolls : List.Vector (Fin 36) 4) (index total : Nat) (piece : Utf16) :
    chunkPayload (randomMsgId rolls) index total piece = units (headerChars rolls index total) ++ piece := by
  have marker : encodeChar '\x01' = [chunkMarker] := by decide
  have sign : encodeChar ':' = [colon] := by decide
  simp [chunkPayload, randomMsgId, decimal, headerChars, units, ofString, marker, sign]

theorem plain_digit {n : Nat} {c : Char} (digit : c ∈ Nat.toDigits 10 n) : Plain c := by
  have range : 48 ≤ c.toNat ∧ c.toNat ≤ 57 := by
    have digit := Nat.isDigit_of_mem_toDigits (by decide) (by decide) digit
    simpa [Char.isDigit, UInt32.le_iff_toNat_le] using digit
  constructor
  · rw [Char.utf8Size_eq_one_iff, UInt32.le_iff_toNat_le]
    change c.toNat ≤ 127
    omega
  · rintro rfl
    exact absurd range.1 (by decide)

theorem plain_msgIdChars : ∀ c ∈ msgIdChars, Plain c := by
  have checked : msgIdChars.all (fun c => c.utf8Size == 1 && c != '\x00') = true := by decide
  simpa [Plain] using checked

theorem plain_header {rolls : List.Vector (Fin 36) 4} {index total : Nat} :
    ∀ c ∈ headerChars rolls index total, Plain c := by
  intro c member
  simp only [headerChars, List.mem_cons, List.mem_append, List.mem_map, List.not_mem_nil, or_false] at member
  rcases member with rfl | ((⟨i, _, rfl⟩ | rfl | digit) | rfl | digit) | rfl
  · unfold Plain; decide
  · have inside : i.val < msgIdChars.length := i.isLt
    rw [List.getD, List.getElem?_eq_getElem inside, Option.getD_some]
    exact plain_msgIdChars _ (List.getElem_mem inside)
  · unfold Plain; decide
  · exact plain_digit digit
  · unfold Plain; decide
  · exact plain_digit digit
  · unfold Plain; decide

theorem utf8Length_plain {cs : List Char} (plain : ∀ c ∈ cs, Plain c) : utf8Length cs = cs.length := by
  induction cs with
  | nil => rfl
  | cons c cs ih =>
      rw [List.forall_mem_cons] at plain
      rw [utf8Length_cons, plain.1.1, ih plain.2, List.length_cons, Nat.add_comm]

theorem utf8Length_header {rolls : List.Vector (Fin 36) 4} {index total : Nat} (less : index < total)
    (few : total ≤ maxChunks) : utf8Length (headerChars rolls index total) ≤ headerMaxOverhead := by
  have digits : ∀ n ≤ maxChunks, (Nat.toDigits 10 n).length ≤ 4 := by
    intro n le
    rw [Nat.length_toDigits_le_iff (by decide) (by decide)]
    simp only [maxChunks] at le
    omega
  have first := digits index (by omega)
  have second := digits total few
  rw [utf8Length_plain plain_header]
  simp only [headerChars, List.length_cons, List.length_append, List.length_map, List.Vector.toList_length,
    List.length_nil, headerMaxOverhead, msgIdLen]
  omega

theorem asRead_cut {payload : Utf16} (fits : utf8ByteLength payload ≤ Backend.lenPayload)
    (noNul : 0 ∉ payload) : asRead (cut Backend.lenPayload payload) =
      units (TextDecoder.dropMark (scalars payload)) := by
  have whole : fitting Backend.lenPayload (scalars payload) = scalars payload :=
    fitting_eq_self (by rwa [← utf8ByteLength_eq])
  have kept : (scalars payload).takeWhile (· ≠ '\x00') = scalars payload := by
    have differ : ∀ c ∈ scalars payload, decide (c ≠ '\x00') = true := by
      intro c member
      refine decide_eq_true ?_
      rintro rfl
      exact noNul (zero_mem_of_scalars member)
    exact List.takeWhile_eq_self_iff.mpr differ
  rw [asRead, cut, String.toList_ofList, whole, kept]
  rfl

theorem utf8ByteLength_chunk_le {rolls : List.Vector (Fin 36) 4} {index total : Nat} {piece : Utf16}
    (less : index < total) (few : total ≤ maxChunks) (small : utf8ByteLength piece ≤ dataBudgetPerChunk) :
    utf8ByteLength (chunkPayload (randomMsgId rolls) index total piece) ≤ Backend.lenPayload := by
  have header := @utf8Length_header rolls _ _ less few
  rw [chunkPayload_eq, utf8ByteLength_units_append]
  simp only [dataBudgetPerChunk, headerMaxOverhead, msgIdLen, Backend.lenPayload] at header small ⊢
  omega

theorem asRead_chunk {rolls : List.Vector (Fin 36) 4} {index total : Nat} {piece : Utf16} (less : index < total)
    (few : total ≤ maxChunks) (small : utf8ByteLength piece ≤ dataBudgetPerChunk) (noNul : 0 ∉ piece) :
    asRead (cut Backend.lenPayload (chunkPayload (randomMsgId rolls) index total piece)) =
      chunkPayload (randomMsgId rolls) index total (normalize piece) := by
  have fits := @utf8ByteLength_chunk_le rolls _ _ _ less few small
  have clean : 0 ∉ chunkPayload (randomMsgId rolls) index total piece := by
    rw [chunkPayload_eq, List.mem_append, not_or]
    refine ⟨?_, noNul⟩
    intro zero
    obtain ⟨c, member, unit⟩ := List.mem_flatMap.mp zero
    exact (plain_header c member).2 (nul_mem_of_encodeChar unit)
  rw [asRead_cut fits clean, chunkPayload_eq, chunkPayload_eq]
  have chars : scalars (units (headerChars rolls index total) ++ piece) =
      headerChars rolls index total ++ scalars piece := scalars_flatMap_append ..
  have first : TextDecoder.dropMark (headerChars rolls index total ++ scalars piece) =
      headerChars rolls index total ++ scalars piece := if_neg (by simp [headerChars])
  rw [chars, first, units_append, normalize, ofString, toUsv, String.toList_ofList]
  rfl

/-- How the frames of one message are sent. -/
structure Wire where
  opcode : Backend.Opcode
  tenantId : Backend.Uuid
  channelId : Utf16

structure Send where
  index : Nat
  now : Int
  seen : Int

def Wire.carry (w : Wire) (chunk : Utf16) : Except ProtocolError DecodedFrame :=
  decodeFrame (encodeFrame { opcode := w.opcode, tenantId := w.tenantId, channelId := w.channelId, payload := chunk })

def deliver (w : Wire) (chunks : List Utf16) : ChunkReassembler → List Send → List Utf16
  | _, [] => []
  | r, s :: sends =>
    match w.carry (chunks.getD s.index []) with
    | .error _ => deliver w chunks r sends
    | .ok frame =>
      (assemble s.now s.seen frame.payload r).1.toList ++
        deliver w chunks (assemble s.now s.seen frame.payload r).2 sends

structure Arrives (chunks : List Utf16) (sends : List Send) : Prop where
  order : (sends.map Send.index).Perm (List.range chunks.length)
  inTime : ∀ first rest, sends = first :: rest → ∀ s ∈ rest, s.now - first.seen ≤ reassemblyTtlMs

def Transparent (w : Wire) (rolls : List.Vector (Fin 36) 4) (maxMessageBytes : Nat) (p : String) : Prop :=
  ∃ chunks, encodeChunks rolls (ofString p) maxMessageBytes = .ok chunks ∧
    ∀ sends, Arrives chunks sends → deliver w chunks .new sends = [ofString p]

def Passes (p : String) : Prop :=
  if (utf8 p).length ≤ Backend.lenPayload then p.toList.head? ≠ some '\uFEFF' ∧ parseChunk (ofString p) = none
  else cutsCleanly dataBudgetPerChunk 0 p.toList ∧ pieceCount dataBudgetPerChunk 0 p.toList ≤ maxChunks

section
variable {w : Wire} {rolls : List.Vector (Fin 36) 4} {maxMessageBytes : Nat} {p : String}
  {chunks : List Utf16} {sends : List Send}

theorem deliver_cons (r : ChunkReassembler) (s : Send) :
    deliver w chunks r (s :: sends) =
      (assemble s.now s.seen (asRead (cut Backend.lenPayload (chunks.getD s.index []))) r).1.toList ++
        deliver w chunks (assemble s.now s.seen (asRead (cut Backend.lenPayload (chunks.getD s.index []))) r).2
          sends := by
  rw [deliver, Wire.carry, decodeFrame_encodeFrame]

theorem arrives_inOrder (chunks : List Utf16) :
    Arrives chunks ((List.range chunks.length).map fun i => ⟨i, 0, 0⟩) := by
  constructor
  · rw [List.map_map, show Send.index ∘ (fun i => (⟨i, 0, 0⟩ : Send)) = id from rfl, List.map_id]
  · intro first rest split s member
    have zero : ∀ t ∈ first :: rest, t.now = 0 ∧ t.seen = 0 := by
      intro t inside
      rw [← split] at inside
      obtain ⟨i, _, rfl⟩ := List.mem_map.mp inside
      exact ⟨rfl, rfl⟩
    rw [(zero s (List.mem_cons_of_mem _ member)).1, (zero first List.mem_cons_self).2]
    decide

theorem units_toList (p : String) : units p.toList = ofString p := rfl

theorem zero_notMem_ofString (noNul : '\x00' ∉ p.toList) : 0 ∉ ofString p := by
  intro zero
  obtain ⟨c, member, unit⟩ := List.mem_flatMap.mp zero
  exact noNul (nul_mem_of_encodeChar unit ▸ member)

theorem arrives_single (arrives : Arrives [ofString p] sends) : ∃ s, sends = [s] ∧ s.index = 0 :=
  List.map_eq_singleton_iff.mp (List.perm_singleton.mp arrives.order)

theorem deliver_single (noNul : '\x00' ∉ p.toList) (short : (utf8 p).length ≤ Backend.lenPayload)
    (arrives : Arrives [ofString p] sends) :
    deliver w [ofString p] .new sends = [ofString p] ↔
      p.toList.head? ≠ some '\uFEFF' ∧ parseChunk (ofString p) = none := by
  obtain ⟨s, rfl, index⟩ := arrives_single arrives
  have fits : utf8ByteLength (ofString p) ≤ Backend.lenPayload := by
    rwa [utf8ByteLength, toUsv_ofString]
  have chars : scalars (ofString p) = p.toList := by
    have same := scalars_flatMap_append p.toList []
    rwa [List.append_nil, show scalars [] = [] from rfl, List.append_nil] at same
  have read : asRead (cut Backend.lenPayload (ofString p)) = units (TextDecoder.dropMark p.toList) := by
    rw [asRead_cut fits (zero_notMem_ofString noNul), chars]
  rw [deliver_cons, deliver, List.append_nil, index, List.getD_cons_zero, read]
  have size : p.toList.head? = some '\uFEFF' →
      (units (TextDecoder.dropMark p.toList)).length < (ofString p).length := by
    intro mark
    obtain ⟨rest, shape⟩ : ∃ rest, p.toList = '\uFEFF' :: rest := by
      cases list : p.toList with
      | nil => rw [list] at mark; cases mark
      | cons c rest => rw [list] at mark; cases mark; exact ⟨rest, rfl⟩
    rw [← units_toList, shape, TextDecoder.dropMark, List.head?_cons, if_pos rfl, List.tail_cons, units_cons, List.length_append]
    have unit : 0 < (encodeChar '\uFEFF').length := by decide
    omega
  have plain : p.toList.head? ≠ some '\uFEFF' → units (TextDecoder.dropMark p.toList) = ofString p := by
    intro noMark
    rw [TextDecoder.dropMark, if_neg noMark, units_toList]
  have bound : (units (TextDecoder.dropMark p.toList)).length ≤ (ofString p).length := by
    by_cases mark : p.toList.head? = some '\uFEFF'
    · exact Nat.le_of_lt (size mark)
    · rw [plain mark]
  cases parsed : parseChunk (units (TextDecoder.dropMark p.toList)) with
  | none =>
      rw [assemble, parsed]
      constructor
      · intro same
        have text : units (TextDecoder.dropMark p.toList) = ofString p := List.singleton_inj.mp same
        refine ⟨fun mark => ?_, text ▸ parsed⟩
        have less := size mark
        rw [text] at less
        exact Nat.lt_irrefl _ less
      · intro passes
        rw [plain passes.1]
        rfl
  | some h =>
      rw [assemble, parsed]
      have shorter := length_data_lt parsed
      constructor
      · intro same
        rw [ChunkReassembler.feed_new (index_lt_of_parseChunk parsed)] at same
        split at same
        · have data : h.data = ofString p := List.singleton_inj.mp same
          rw [data] at shorter
          omega
        · cases same
      · intro passes
        rw [plain passes.1, passes.2] at parsed
        cases parsed

variable {pieces : List Utf16}

/-- The message that the pieces make once they have been through their frames. -/
def message (rolls : List.Vector (Fin 36) 4) (pieces : List Utf16) (nonempty : pieces ≠ []) :
    Reassembly.ChunkedMessage :=
  ⟨randomMsgId rolls, pieces.map normalize, by simpa using nonempty⟩

def chunksOf (rolls : List.Vector (Fin 36) 4) (pieces : List Utf16) : List Utf16 :=
  pieces.mapIdx fun index piece => chunkPayload (randomMsgId rolls) index pieces.length piece

/-- The chunks that arrive, as the reassembler sees them. -/
def arrivals (rolls : List.Vector (Fin 36) 4) (nonempty : pieces ≠ []) (sends : List Send)
    (inside : ∀ s ∈ sends, s.index < pieces.length) : List Reassembly.Arrival :=
  sends.pmap (fun s bound => ⟨message rolls pieces nonempty, s.index, by simpa [message] using bound, s.now, s.seen⟩)
    inside

theorem length_randomMsgId (rolls : List.Vector (Fin 36) 4) : (randomMsgId rolls).length = msgIdLen := by
  have unit : ∀ c ∈ msgIdChars, (encodeChar c).length = 1 := by
    have checked : msgIdChars.all (fun c => (encodeChar c).length == 1) = true := by decide
    simpa using checked
  have each : ∀ l : List (Fin 36), (units (l.map fun (i : Fin 36) => msgIdChars.getD i.val 'a')).length = l.length := by
    intro l
    induction l with
    | nil => rfl
    | cons i l ih =>
        have inside : i.val < msgIdChars.length := i.isLt
        rw [List.map_cons, units_cons, List.length_append, ih, List.getD, List.getElem?_eq_getElem inside,
          Option.getD_some, unit _ (List.getElem_mem inside), List.length_cons, Nat.add_comm]
  rw [randomMsgId, ofString, String.toList_ofList]
  exact (each rolls.toList).trans rolls.toList_length

theorem assemble_chunk (nonempty : pieces ≠ []) (few : pieces.length ≤ maxChunks)
    (small : ∀ piece ∈ pieces, utf8ByteLength piece ≤ dataBudgetPerChunk) (noNul : ∀ piece ∈ pieces, 0 ∉ piece)
    (s : Send) (inside : s.index < pieces.length) (r : ChunkReassembler) :
    assemble s.now s.seen (asRead (cut Backend.lenPayload ((chunksOf rolls pieces).getD s.index []))) r =
      Reassembly.arrive r
        ⟨message rolls pieces nonempty, s.index, by simpa [message] using inside, s.now, s.seen⟩ := by
  have chunk : (chunksOf rolls pieces).getD s.index [] =
      chunkPayload (randomMsgId rolls) s.index pieces.length pieces[s.index] := by
    simp [chunksOf, inside]
  have member := List.getElem_mem inside
  have total : pieces.length < 2 ^ 53 := by
    simp only [maxChunks] at few
    omega
  rw [chunk, asRead_chunk inside few (small _ member) (noNul _ member), assemble,
    parseChunk_chunkPayload (length_randomMsgId rolls) inside total]
  simp [Reassembly.arrive, Reassembly.Arrival.header, message]

theorem deliver_eq_returned (nonempty : pieces ≠ []) (few : pieces.length ≤ maxChunks)
    (small : ∀ piece ∈ pieces, utf8ByteLength piece ≤ dataBudgetPerChunk) (noNul : ∀ piece ∈ pieces, 0 ∉ piece)
    (inside : ∀ s ∈ sends, s.index < pieces.length) (r : ChunkReassembler) :
    deliver w (chunksOf rolls pieces) r sends =
      (Reassembly.returned r (arrivals rolls nonempty sends inside)).map (·.2) := by
  induction sends generalizing r with
  | nil => rfl
  | cons s sends ih =>
      rw [deliver_cons, assemble_chunk nonempty few small noNul s (inside s List.mem_cons_self),
        ih fun t later => inside t (List.mem_cons_of_mem _ later)]
      simp only [arrivals, List.pmap_cons, Reassembly.returned, List.map_append]
      congr 1
      cases (Reassembly.arrive r _).1 <;> rfl

section
variable {nonempty : pieces ≠ []} {inside : ∀ s ∈ sends, s.index < pieces.length}

theorem message_of_arrivals {a : Reassembly.Arrival} (member : a ∈ arrivals rolls nonempty sends inside) :
    a.message = message rolls pieces nonempty := by
  obtain ⟨s, _, rfl⟩ := List.mem_pmap.mp member
  rfl

theorem map_index_arrivals :
    (arrivals rolls nonempty sends inside).map (·.index) = sends.map Send.index := by
  rw [arrivals, List.map_pmap]
  exact List.pmap_eq_map inside

theorem timely_arrivals (arrives : Arrives (chunksOf rolls pieces) sends) :
    Reassembly.Timely (arrivals rolls nonempty sends inside) := by
  have order : (sends.map Send.index).Perm (List.range pieces.length) := by
    simpa [chunksOf] using arrives.order
  have nodup := order.nodup_iff.mpr List.nodup_range
  have indices : (arrivals rolls nonempty sends inside).map (·.index) = sends.map Send.index :=
    map_index_arrivals
  rw [← indices] at order nodup
  constructor
  · intro a inA b inB _
    rw [message_of_arrivals inA, message_of_arrivals inB]
  · intro a inA i bound
    rw [message_of_arrivals inA] at bound ⊢
    have member : i ∈ List.range pieces.length := List.mem_range.mpr (by simpa [message] using bound)
    obtain ⟨b, inB, index⟩ := List.mem_map.mp (order.mem_iff.mpr member)
    exact ⟨b, inB, message_of_arrivals inB, index⟩
  · intro pre a post split complete
    obtain ⟨b, inPre, _, index⟩ := complete a.index a.inside
    rw [split, List.map_append, List.map_cons] at nodup
    exact (List.nodup_append.mp nodup).2.2 _ (List.mem_map_of_mem inPre) _ List.mem_cons_self index
  · intro pre a mid b post split _ rest c member
    have none : pre = [] := by
      cases pre with
      | nil => rfl
      | cons d pre =>
          have inD : d ∈ arrivals rolls nonempty sends inside := by simp [split]
          have inA : a ∈ arrivals rolls nonempty sends inside := by simp [split]
          exact absurd ((message_of_arrivals inD).trans (message_of_arrivals inA).symm)
            (rest d List.mem_cons_self)
    subst none
    cases sends with
    | nil => simp [arrivals] at split
    | cons first sends =>
        rw [arrivals, List.pmap_cons, List.nil_append, List.cons_append, List.cons.injEq] at split
        obtain ⟨rfl, later⟩ := split
        have inRest : c ∈ mid ++ b :: post := by
          rcases List.mem_append.mp member with between | last
          · exact List.mem_append_left _ between
          · exact List.mem_append_right _ (List.mem_singleton.mp last ▸ List.mem_cons_self)
        rw [← later] at inRest
        obtain ⟨s, inSends, rfl⟩ := List.mem_pmap.mp inRest
        exact arrives.inTime first sends rfl s inSends

theorem fst_of_returned {arrivals : List Reassembly.Arrival} {r : ChunkReassembler}
    {m : Reassembly.ChunkedMessage} (all : ∀ a ∈ arrivals, a.message = m) :
    ∀ x ∈ Reassembly.returned r arrivals, x.1 = m := by
  induction arrivals generalizing r with
  | nil => simp [Reassembly.returned]
  | cons a arrivals ih =>
      intro x member
      rcases List.mem_append.mp member with first | later
      · obtain ⟨text, _, rfl⟩ := Option.map_eq_some_iff.mp (Option.mem_toList.mp first)
        exact all a List.mem_cons_self
      · exact ih (fun b inB => all b (List.mem_cons_of_mem _ inB)) x later

end

theorem deliver_pieces (nonempty : pieces ≠ []) (few : pieces.length ≤ maxChunks)
    (small : ∀ piece ∈ pieces, utf8ByteLength piece ≤ dataBudgetPerChunk) (noNul : ∀ piece ∈ pieces, 0 ∉ piece)
    (arrives : Arrives (chunksOf rolls pieces) sends) :
    deliver w (chunksOf rolls pieces) .new sends = [(pieces.map normalize).flatten] := by
  have inside : ∀ s ∈ sends, s.index < pieces.length := by
    intro s member
    have listed := arrives.order.mem_iff.mp (List.mem_map_of_mem member)
    simpa [chunksOf] using listed
  have timely : Reassembly.Timely (arrivals rolls nonempty sends inside) := timely_arrivals arrives
  have one := Reassembly.returned_filter timely (message rolls pieces nonempty) _ []
    (List.append_nil _).symm
  have own : ∀ x ∈ Reassembly.returned .new (arrivals rolls nonempty sends inside),
      decide (x.1 = message rolls pieces nonempty) = true := fun x member =>
    decide_eq_true (fst_of_returned (fun a => message_of_arrivals) x member)
  have complete : Reassembly.Complete (message rolls pieces nonempty) (arrivals rolls nonempty sends inside) := by
    cases sends with
    | nil =>
        have count := arrives.order.length_eq
        have pos := List.length_pos_of_ne_nil nonempty
        simp [chunksOf] at count
        omega
    | cons first sends =>
        have member : (⟨message rolls pieces nonempty, first.index, by
            simpa [message] using inside first List.mem_cons_self, first.now, first.seen⟩ : Reassembly.Arrival) ∈
            arrivals rolls nonempty (first :: sends) inside := by
          simp [arrivals]
        exact timely.whole _ member
  rw [List.filter_eq_self.mpr own, if_pos complete] at one
  rw [deliver_eq_returned nonempty few small noNul inside, one]
  rfl

end

theorem transparent_iff_passes (w : Wire) (rolls : List.Vector (Fin 36) 4) {maxMessageBytes : Nat} {p : String}
    (noNul : '\x00' ∉ p.toList) (bounded : (utf8 p).length ≤ maxMessageBytes) :
    Transparent w rolls maxMessageBytes p ↔ Passes p := by
  have size : utf8ByteLength (ofString p) = (utf8 p).length := by rw [utf8ByteLength, toUsv_ofString]
  by_cases short : (utf8 p).length ≤ Backend.lenPayload
  · have encoded : encodeChunks rolls (ofString p) maxMessageBytes = .ok [ofString p] := by
      rw [encodeChunks]
      simp only [size, short, if_true]
    rw [Passes, if_pos short]
    constructor
    · rintro ⟨chunks, same, every⟩
      rw [encoded, Except.ok.injEq] at same
      subst same
      have arrives := arrives_inOrder [ofString p]
      exact (deliver_single noNul short arrives).mp (every _ arrives)
    · intro passes
      exact ⟨_, encoded, fun sends arrives => (deliver_single noNul short arrives).mpr passes⟩
  · have nonempty : p.toList ≠ [] := by
      intro none
      have empty : p = "" := String.toList_inj.mp none
      rw [empty] at short
      exact short (by decide)
    obtain ⟨clean, count⟩ := @pieces_wellFormed dataBudgetPerChunk (by decide) p.toList nonempty
    rw [units_toList] at clean count
    have flat := flatten_split (ofString p) dataBudgetPerChunk
    have small := @utf8ByteLength_piece_le (ofString p) dataBudgetPerChunk (by decide)
    have encoded : encodeChunks rolls (ofString p) maxMessageBytes =
        if (splitByByteBudget (ofString p) dataBudgetPerChunk).length > maxChunks then
          .error ⟨s!"message nécessite {(splitByByteBudget (ofString p) dataBudgetPerChunk).length} chunks, au-delà de la limite de {maxChunks}"⟩
        else .ok (chunksOf rolls (splitByByteBudget (ofString p) dataBudgetPerChunk)) := by
      have within : ¬ (utf8 p).length > maxMessageBytes := by omega
      rw [encodeChunks]
      simp only [size, short, within, if_false]
      rfl
    generalize splitByByteBudget (ofString p) dataBudgetPerChunk = pieces at clean count flat small encoded
    have somePieces : pieces ≠ [] := by
      rintro rfl
      have pos := length_units_pos nonempty
      rw [units_toList, ← flat] at pos
      exact Nat.lt_irrefl _ pos
    have clear : ∀ piece ∈ pieces, 0 ∉ piece := by
      intro piece member zero
      refine zero_notMem_ofString noNul ?_
      rw [← flat]
      exact List.mem_flatten.mpr ⟨piece, member, zero⟩
    rw [Passes, if_neg short]
    constructor
    · rintro ⟨chunks, same, every⟩
      rw [encoded] at same
      split at same
      · cases same
      · rename_i few
        rw [Except.ok.injEq] at same
        subst same
        have arrives := arrives_inOrder (chunksOf rolls pieces)
        have text := (deliver_pieces somePieces (by omega) small clear arrives).symm.trans (every _ arrives)
        rw [List.singleton_inj, ← flat, flatten_normalize] at text
        have cuts := clean.mp text
        exact ⟨cuts, by rw [← count cuts]; omega⟩
    · rintro ⟨cuts, few⟩
      rw [← count cuts] at few
      refine ⟨_, by rw [encoded, if_neg (by omega)], fun sends arrives => ?_⟩
      rw [deliver_pieces somePieces few small clear arrives, (flatten_normalize pieces).mpr (clean.mpr cuts), flat]

/-- No byte order mark begins a text of one frame, no cut of a longer one falls inside a scalar value. -/
def Regular (p : String) : Prop :=
  if (utf8 p).length ≤ Backend.lenPayload then p.toList.head? ≠ some '\uFEFF'
  else cutsCleanly dataBudgetPerChunk 0 p.toList

/-- A text of one frame is not itself in the form of a chunk, a longer one needs no more chunks than the
header has room to number. -/
def Sendable (p : String) : Prop :=
  if (utf8 p).length ≤ Backend.lenPayload then parseChunk (ofString p) = none
  else pieceCount dataBudgetPerChunk 0 p.toList ≤ maxChunks

instance (p : String) : Decidable (Regular p) := by
  unfold Regular
  infer_instance

instance (p : String) : Decidable (Sendable p) := by
  unfold Sendable
  infer_instance

theorem transparent_iff_sendable (w : Wire) (rolls : List.Vector (Fin 36) 4) {maxMessageBytes : Nat} {p : String}
    (noNul : '\x00' ∉ p.toList) (bounded : (utf8 p).length ≤ maxMessageBytes) (regular : Regular p) :
    Transparent w rolls maxMessageBytes p ↔ Sendable p := by
  rw [transparent_iff_passes w rolls noNul bounded]
  unfold Passes Sendable
  unfold Regular at regular
  split
  · rename_i short
    rw [if_pos short] at regular
    exact and_iff_right regular
  · rename_i long
    rw [if_neg long] at regular
    exact and_iff_right regular

def wire : Wire := ⟨.publish, List.Vector.replicate 16 0, ofString "room"⟩
def rolls : List.Vector (Fin 36) 4 := List.Vector.replicate 4 7

def announcement : List Char := List.replicate 65 '€' ++ ['€', '€', '€', '€', '€', '😀']

theorem length_announcement : (utf8 (String.ofList announcement)).length = 214 := by
  have bytes : (utf8 (String.ofList announcement)).length = utf8Length announcement := by
    rw [utf8_ofList, utf8Length]
  rw [bytes, announcement, utf8Length_append, utf8Length_replicate]
  decide

theorem walk_announcement :
    (cutsCleanly dataBudgetPerChunk 0 announcement ↔
      cutsCleanly dataBudgetPerChunk 195 ['€', '€', '€', '€', '€', '😀']) ∧
    pieceCount dataBudgetPerChunk 0 announcement =
      pieceCount dataBudgetPerChunk 195 ['€', '€', '€', '€', '€', '😀'] := by
  have first : utf8Length (List.replicate 65 '€') = 195 := by
    rw [utf8Length_replicate]
    decide
  have walk := @walk_append dataBudgetPerChunk 0 (List.replicate 65 '€')
    ['€', '€', '€', '€', '€', '😀'] (by rw [first]; decide)
  rwa [first, Nat.zero_add] at walk

theorem announcement_transparent :
    Transparent wire rolls defaultMaxMessageBytes (String.ofList announcement) := by
  have long : ¬ (utf8 (String.ofList announcement)).length ≤ Backend.lenPayload := by
    rw [length_announcement]
    decide
  refine (transparent_iff_sendable wire rolls ?_ ?_ ?_).mpr ?_
  · rw [String.toList_ofList]
    decide
  · rw [length_announcement]
    decide
  · rw [Regular, if_neg long, String.toList_ofList, walk_announcement.1]
    decide
  · rw [Sendable, if_neg long, String.toList_ofList, walk_announcement.2]
    decide

theorem header_not_transparent : ¬ ∀ (w : Wire) (rolls : List.Vector (Fin 36) 4) (maxMessageBytes : Nat)
    (p : String), '\x00' ∉ p.toList → (utf8 p).length ≤ maxMessageBytes → Transparent w rolls maxMessageBytes p := by
  intro always
  have sent := always wire rolls defaultMaxMessageBytes "\x01k7x2:0:1:x" (by decide) (by decide)
  rw [transparent_iff_passes wire rolls (by decide) (by decide), Passes, if_pos (by decide)] at sent
  exact absurd sent.2 (by decide +kernel)

end RealtimePlatform.Proof.ChunkTransparency
