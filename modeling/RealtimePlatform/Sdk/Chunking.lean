import RealtimePlatform.Sdk.Protocol
import RealtimePlatform.Library.Bisection
import RealtimePlatform.Library.Numeral
import RealtimePlatform.Library.Table

/-!
# Messages larger than one frame

`encodeChunks` cuts a text into chunks, each with a small header in its payload; `parseChunk` reads the
header back and `ChunkReassembler` collects the chunks of a message until it has as many as announced.
-/

namespace RealtimePlatform.Sdk
open Library Utf16
open Backend (lenPayload)

def chunkMarker : UInt16 := 0x01
def colon : UInt16 := 0x3A
def msgIdLen : Nat := 4
def msgIdChars : List Char := "abcdefghijklmnopqrstuvwxyz0123456789".toList
def headerMaxOverhead : Nat := 1 + msgIdLen + 1 + 4 + 1 + 4 + 1
def dataBudgetPerChunk : Nat := lenPayload - headerMaxOverhead
def maxChunks : Nat := 9999
def defaultMaxMessageBytes : Nat := 64 * 1024

def randomMsgId (rolls : List.Vector (Fin 36) 4) : Utf16 :=
  ofString (String.ofList (rolls.toList.map fun (i : Fin 36) => msgIdChars.getD i.val 'a'))

def bestPrefix (remaining : Utf16) (maxBytesPerPiece : Nat) : Nat :=
  (bisect (fun mid => utf8ByteLength (remaining.take mid.toNat) ≤ maxBytesPerPiece) 1 remaining.length
    0).toNat

def splitByByteBudget (text : Utf16) (maxBytesPerPiece : Nat) : List Utf16 :=
  if text = [] then []
  else
    let best := bestPrefix text maxBytesPerPiece
    let take := if best = 0 then 1 else best
    text.take take :: splitByByteBudget (text.drop take) maxBytesPerPiece
termination_by text.length
decreasing_by
  rename_i nonempty
  have pos := List.length_pos_of_ne_nil nonempty
  rw [List.length_drop]
  split <;> omega

def decimal (n : Nat) : Utf16 := ofString (String.ofList (Nat.toDigits 10 n))

def chunkPayload (msgId : Utf16) (index total : Nat) (piece : Utf16) : Utf16 :=
  [chunkMarker] ++ msgId ++ [colon] ++ decimal index ++ [colon] ++ decimal total ++ [colon] ++ piece

def encodeChunks (rolls : List.Vector (Fin 36) 4) (payload : Utf16) (maxMessageBytes : Nat) :
    Except ProtocolError (List Utf16) :=
  let totalBytes := utf8ByteLength payload
  if totalBytes ≤ lenPayload then .ok [payload]
  else if totalBytes > maxMessageBytes then
    .error ⟨s!"message trop volumineux : {totalBytes} octets dépasse la limite de {maxMessageBytes} octets (ajustable via RealtimeClientConfig.maxMessageBytes)"⟩
  else
    let pieces := splitByByteBudget payload dataBudgetPerChunk
    if pieces.length > maxChunks then
      .error ⟨s!"message nécessite {pieces.length} chunks, au-delà de la limite de {maxChunks}"⟩
    else
      let msgId := randomMsgId rolls
      let total := pieces.length
      .ok (pieces.mapIdx fun index piece => chunkPayload msgId index total piece)

structure ChunkHeader where
  msgId : Utf16
  index : Nat
  total : Nat
  data : Utf16
  deriving DecidableEq

def atColon (s : Utf16) : Option (Utf16 × Utf16) :=
  if colon ∈ s then some (s.takeWhile (· ≠ colon), (s.dropWhile (· ≠ colon)).tail) else none

def number (s : Utf16) : Double := Numeral.stringToNumber (scalars s)

def chunkNumbers : Double → Double → Option (Nat × Nat)
  | .finite index, .finite total =>
    if index.den = 1 ∧ total.den = 1 ∧ 0 ≤ index ∧ 0 < total ∧ index < total
    then some (index.num.toNat, total.num.toNat) else none
  | _, _ => none

def parseNumbers (msgId rest : Utf16) : Option ChunkHeader :=
  (atColon rest).bind fun (indexStr, afterIndex) =>
    (atColon afterIndex).bind fun (totalStr, data) =>
      (chunkNumbers (number indexStr) (number totalStr)).map fun (index, total) =>
        { msgId, index, total, data }

def parseChunk (payload : Utf16) : Option ChunkHeader :=
  let rest := payload.drop (1 + msgIdLen)
  if payload.length < msgIdLen + 5 ∨ payload.head? ≠ some chunkMarker ∨ rest.head? ≠ some colon then none
  else parseNumbers ((payload.drop 1).take msgIdLen) rest.tail

theorem chunkNumbers_lt {index total : Double} {numbers : Nat × Nat}
    (read : chunkNumbers index total = some numbers) : numbers.1 < numbers.2 := by
  unfold chunkNumbers at read
  split at read
  · rename_i i t
    split at read
    · rename_i valid
      obtain ⟨wholeI, wholeT, low, _, less⟩ := valid
      cases read
      have numI : ((i.num : ℤ) : ℚ) = i := Rat.coe_int_num_of_den_eq_one wholeI
      have numT : ((t.num : ℤ) : ℚ) = t := Rat.coe_int_num_of_den_eq_one wholeT
      rw [← numI, ← numT] at less
      have nonneg := Rat.num_nonneg.mpr low
      have lessNum : i.num < t.num := by exact_mod_cast less
      change i.num.toNat < t.num.toNat
      omega
    · cases read
  · cases read

theorem index_lt_of_parseChunk {payload : Utf16} {header : ChunkHeader}
    (parsed : parseChunk payload = some header) : header.index < header.total := by
  unfold parseChunk at parsed
  dsimp only at parsed
  split at parsed
  · cases parsed
  obtain ⟨⟨_, afterIndex⟩, _, parsed⟩ := Option.bind_eq_some_iff.mp parsed
  obtain ⟨⟨_, data⟩, _, parsed⟩ := Option.bind_eq_some_iff.mp parsed
  obtain ⟨⟨index, total⟩, numbers, same⟩ := Option.map_eq_some_iff.mp parsed
  rw [← same]
  exact chunkNumbers_lt numbers

theorem length_of_atColon {s before after : Utf16} (found : atColon s = some (before, after)) :
    after.length ≤ s.length := by
  unfold atColon at found
  split at found
  · cases found
    have le := (List.dropWhile_suffix (· ≠ colon) (l := s)).length_le
    rw [List.length_tail]
    omega
  · cases found

theorem length_data_lt {payload : Utf16} {header : ChunkHeader}
    (parsed : parseChunk payload = some header) : header.data.length < payload.length := by
  unfold parseChunk at parsed
  dsimp only at parsed
  split at parsed
  · cases parsed
  rename_i long
  obtain ⟨⟨_, afterIndex⟩, first, parsed⟩ := Option.bind_eq_some_iff.mp parsed
  obtain ⟨⟨_, data⟩, second, parsed⟩ := Option.bind_eq_some_iff.mp parsed
  obtain ⟨_, _, rfl⟩ := Option.map_eq_some_iff.mp parsed
  have outer := length_of_atColon first
  have inner := length_of_atColon second
  rw [not_or, Nat.not_lt] at long
  have size := long.1
  simp only [List.length_tail, List.length_drop, msgIdLen] at outer size
  change data.length < payload.length
  omega

theorem number_decimal {n : Nat} (small : n < 2 ^ 53) : number (decimal n) = .finite n := by
  have text : scalars (decimal n) = Nat.toDigits 10 n := by
    have units := congrArg String.toList (toUsv_ofString (String.ofList (Nat.toDigits 10 n)))
    rwa [toUsv, String.toList_ofList, String.toList_ofList] at units
  rw [number, text, Numeral.stringToNumber_toDigits small]

theorem colon_notMem_decimal (n : Nat) : colon ∉ decimal n := by
  intro member
  rw [decimal, ofString, String.toList_ofList, List.mem_flatMap] at member
  obtain ⟨c, digit, unit⟩ := member
  have range : 48 ≤ c.toNat ∧ c.toNat ≤ 57 := by
    have digit := Nat.isDigit_of_mem_toDigits (by decide) (by decide) digit
    simpa [Char.isDigit, UInt32.le_iff_toNat_le] using digit
  rw [encodeChar_short (by omega), List.mem_singleton] at unit
  have value := congrArg UInt16.toNat unit
  rw [UInt16.toNat_ofNat'] at value
  simp only [colon, UInt16.reduceToNat] at value
  omega

theorem length_decimal_pos (n : Nat) : 0 < (decimal n).length := by
  obtain ⟨c, rest, shape⟩ := List.exists_cons_of_ne_nil (Nat.toDigits_ne_nil (n := n) (b := 10))
  have unit : 0 < (encodeChar c).length := by
    unfold encodeChar
    split <;> simp
  rw [decimal, shape, ofString_ofList_cons, List.length_append]
  omega

theorem atColon_append {before : Utf16} (plain : colon ∉ before) (after : Utf16) :
    atColon (before ++ [colon] ++ after) = some (before, after) := by
  have differ : ∀ u ∈ before, decide (u ≠ colon) = true := by
    intro u member
    refine decide_eq_true ?_
    rintro rfl
    exact plain member
  rw [atColon, if_pos (by simp), List.append_assoc, List.takeWhile_append_of_pos differ,
    List.dropWhile_append_of_pos differ]
  simp

theorem parseChunk_chunkPayload {msgId : Utf16} (sized : msgId.length = msgIdLen) {index total : Nat}
    (less : index < total) (small : total < 2 ^ 53) (piece : Utf16) :
    parseChunk (chunkPayload msgId index total piece) = some ⟨msgId, index, total, piece⟩ := by
  have shape : chunkPayload msgId index total piece = chunkMarker :: (msgId ++ (colon ::
      (decimal index ++ [colon] ++ (decimal total ++ [colon] ++ piece)))) := by
    simp [chunkPayload]
  have length := length_decimal_pos index
  have rest : (chunkPayload msgId index total piece).drop (1 + msgIdLen) =
      colon :: (decimal index ++ [colon] ++ (decimal total ++ [colon] ++ piece)) := by
    rw [shape, Nat.add_comm, List.drop_succ_cons, ← sized, List.drop_left]
  have id : ((chunkPayload msgId index total piece).drop 1).take msgIdLen = msgId := by
    rw [shape, List.drop_succ_cons, List.drop_zero, ← sized, List.take_left]
  have long : ¬ (chunkPayload msgId index total piece).length < msgIdLen + 5 := by
    simp only [shape, List.length_cons, List.length_append, List.length_nil, sized]
    omega
  have first : (chunkPayload msgId index total piece).head? = some chunkMarker := by
    rw [shape, List.head?_cons]
  have numbers : chunkNumbers (.finite index) (.finite total) = some (index, total) := by
    have pos : (0 : ℚ) < total := by exact_mod_cast Nat.lt_of_le_of_lt (Nat.zero_le index) less
    have lessQ : (index : ℚ) < total := by exact_mod_cast less
    simp [chunkNumbers, pos, lessQ]
  unfold parseChunk
  dsimp only
  rw [if_neg (by simp [long, first, rest]), id, rest, List.tail_cons]
  simp only [parseNumbers, atColon_append (colon_notMem_decimal index),
    atColon_append (colon_notMem_decimal total), Option.bind_some, number_decimal (less.trans small),
    number_decimal small, numbers, Option.map_some]

structure PendingReassembly where
  total : Nat
  parts : Table Nat Utf16
  firstSeenAt : Int

def PendingReassembly.join (entry : PendingReassembly) : Utf16 :=
  (List.range entry.total).flatMap fun i => (AList.lookup i entry.parts).getD []

def reassemblyTtlMs : Int := 30000

structure ChunkReassembler where
  pending : Table Utf16 PendingReassembly

namespace ChunkReassembler

def new : ChunkReassembler := ⟨∅⟩

def sweepStale (now : Int) (r : ChunkReassembler) : ChunkReassembler :=
  ⟨r.pending.retain fun _ entry => ¬ now - entry.firstSeenAt > reassemblyTtlMs⟩

/-- `now` is the clock at the sweep, `seen` the clock when an entry is made. -/
def feed (now seen : Int) (header : ChunkHeader) (r : ChunkReassembler) :
    Option Utf16 × ChunkReassembler :=
  let swept := r.sweepStale now
  let entry := (AList.lookup header.msgId swept.pending).getD
    { total := header.total, parts := ∅, firstSeenAt := seen }
  let entry := { entry with parts := AList.insert header.index header.data entry.parts }
  if entry.parts.keys.length < entry.total then
    (none, ⟨AList.insert header.msgId entry swept.pending⟩)
  else (some entry.join, ⟨AList.erase header.msgId swept.pending⟩)

section
variable {now seen : Int} {header : ChunkHeader} {r : ChunkReassembler}

def touched (now seen : Int) (header : ChunkHeader) (r : ChunkReassembler) : PendingReassembly :=
  let entry := (AList.lookup header.msgId (r.sweepStale now).pending).getD
    { total := header.total, parts := ∅, firstSeenAt := seen }
  { entry with parts := AList.insert header.index header.data entry.parts }

theorem lookup_sweepStale (id : Utf16) : AList.lookup id (r.sweepStale now).pending =
    (AList.lookup id r.pending).filter fun entry => ¬ now - entry.firstSeenAt > reassemblyTtlMs :=
  Table.lookup_retain ..

theorem feed_cases :
    ((touched now seen header r).parts.keys.length < (touched now seen header r).total ∧
      r.feed now seen header = (none,
        ⟨AList.insert header.msgId (touched now seen header r) (r.sweepStale now).pending⟩)) ∨
    ((touched now seen header r).total ≤ (touched now seen header r).parts.keys.length ∧
      r.feed now seen header = (some (touched now seen header r).join,
        ⟨AList.erase header.msgId (r.sweepStale now).pending⟩)) := by
  by_cases missing : (touched now seen header r).parts.keys.length < (touched now seen header r).total
  · exact Or.inl ⟨missing, if_pos missing⟩
  · exact Or.inr ⟨Nat.le_of_not_lt missing, if_neg missing⟩

theorem feed_new (inside : header.index < header.total) : (feed now seen header new).1 =
    if header.total = 1 then some header.data else none := by
  have entry : touched now seen header new =
      ⟨header.total, AList.insert header.index header.data ∅, seen⟩ := rfl
  have one : (AList.insert header.index header.data (∅ : Table Nat Utf16)).keys.length = 1 := by
    simp
  rcases @feed_cases now seen header new with ⟨short, fed⟩ | ⟨full, fed⟩
  · rw [entry] at short
    dsimp only at short
    rw [fed, if_neg (by omega)]
  · rw [entry] at full
    dsimp only at full
    have total : header.total = 1 := by omega
    have index : header.index = 0 := by omega
    have stored : AList.lookup 0 (AList.insert header.index header.data ∅ : Table Nat Utf16) =
        some header.data := by
      rw [index, AList.lookup_insert]
    rw [fed, if_pos total, entry]
    simp only [PendingReassembly.join, total, List.range_one, List.flatMap_cons, List.flatMap_nil,
      List.append_nil, stored, Option.getD_some]

theorem lookup_feed_ne {id : Utf16} (apart : id ≠ header.msgId) :
    AList.lookup id (r.feed now seen header).2.pending =
      AList.lookup id (r.sweepStale now).pending := by
  rcases @feed_cases now seen header r with ⟨_, fed⟩ | ⟨_, fed⟩
  · rw [fed, AList.lookup_insert_ne apart]
  · rw [fed, AList.lookup_erase_ne apart]

end

end ChunkReassembler
end RealtimePlatform.Sdk
