import RealtimePlatform.Proof.ChunkTransparency

namespace RealtimePlatform.Proof.ChunkFrames
open Library Utf16 Sdk ChunkTransparency

/-- A message in chunks: the pieces one after the other are the message, and each is sent under a header with
its number and the number of all. -/
structure Chunked (payload : Utf16) (chunks : List Utf16) : Prop where
  few : chunks.length ≤ maxChunks
  pieces : ∃ (msgId : Utf16) (pieces : List Utf16), msgId.length = msgIdLen ∧ pieces.length = chunks.length ∧
    pieces.flatten = payload ∧ (∀ piece ∈ pieces, piece ≠ []) ∧
    ∀ k piece, pieces[k]? = some piece → chunks[k]? = some (chunkPayload msgId k chunks.length piece)

theorem ne_nil_of_mem_split {text : Utf16} {budget : Nat} :
    ∀ piece ∈ splitByByteBudget text budget, piece ≠ [] := by
  fun_induction splitByByteBudget text budget with
  | case1 => simp
  | case2 text nonempty best take ih =>
      rw [List.forall_mem_cons]
      refine ⟨?_, ih⟩
      have pos : 0 < take := by
        rw [show take = if best = 0 then 1 else best from rfl]
        split <;> omega
      have length := List.length_pos_of_ne_nil nonempty
      refine List.ne_nil_of_length_pos ?_
      rw [List.length_take]
      omega

/-- Whatever is sent fits a frame: the message itself where it does, its chunks otherwise. -/
theorem encodeChunks_fits {rolls : List.Vector (Fin 36) 4} {payload : Utf16} {maxMessageBytes : Nat}
    {chunks : List Utf16} (accepted : encodeChunks rolls payload maxMessageBytes = .ok chunks) :
    (∀ chunk ∈ chunks, utf8ByteLength chunk ≤ Backend.lenPayload) ∧
    (utf8ByteLength payload ≤ Backend.lenPayload → chunks = [payload]) ∧
    (Backend.lenPayload < utf8ByteLength payload → Chunked payload chunks) := by
  unfold encodeChunks at accepted
  dsimp only at accepted
  split at accepted
  · rename_i small
    cases accepted
    refine ⟨fun chunk member => ?_, fun _ => rfl, fun large => absurd small (Nat.not_le_of_lt large)⟩
    rwa [List.mem_singleton.mp member]
  · rename_i large
    split at accepted
    · cases accepted
    · split at accepted
      · cases accepted
      · rename_i few
        have flat := flatten_split payload dataBudgetPerChunk
        have small := @utf8ByteLength_piece_le payload dataBudgetPerChunk (by decide)
        have nonempty := @ne_nil_of_mem_split payload dataBudgetPerChunk
        generalize splitByByteBudget payload dataBudgetPerChunk = pieces at accepted few flat small nonempty
        cases accepted
        have count : (pieces.mapIdx fun index piece =>
            chunkPayload (randomMsgId rolls) index pieces.length piece).length = pieces.length :=
          List.length_mapIdx
        refine ⟨fun chunk member => ?_, fun le => absurd le large, fun _ => ⟨?_, ?_⟩⟩
        · obtain ⟨k, bound, rfl⟩ := List.mem_mapIdx.mp member
          exact utf8ByteLength_chunk_le bound (Nat.le_of_not_lt few) (small _ (List.getElem_mem bound))
        · rw [count]
          exact Nat.le_of_not_lt few
        · refine ⟨randomMsgId rolls, pieces, length_randomMsgId rolls, count.symm, flat, nonempty, ?_⟩
          intro k piece found
          rw [count, List.getElem?_mapIdx, found, Option.map_some]

theorem length_le_flatten {pieces : List Utf16} (nonempty : ∀ piece ∈ pieces, piece ≠ []) :
    pieces.length ≤ pieces.flatten.length := by
  induction pieces with
  | nil => exact Nat.le_refl _
  | cons piece pieces ih =>
      rw [List.forall_mem_cons] at nonempty
      have first := List.length_pos_of_ne_nil nonempty.1
      have rest := ih nonempty.2
      rw [List.flatten_cons, List.length_append, List.length_cons]
      omega

theorem encodeChunks_of_length {rolls : List.Vector (Fin 36) 4} {payload : Utf16} {maxMessageBytes : Nat}
    (large : Backend.lenPayload < utf8ByteLength payload) (allowed : utf8ByteLength payload ≤ maxMessageBytes)
    (few : payload.length ≤ maxChunks) : ∃ chunks, encodeChunks rolls payload maxMessageBytes = .ok chunks := by
  have count := length_le_flatten (@ne_nil_of_mem_split payload dataBudgetPerChunk)
  rw [flatten_split] at count
  unfold encodeChunks
  dsimp only
  rw [if_neg (Nat.not_le_of_lt large), if_neg (Nat.not_lt_of_le allowed), if_neg (by omega)]
  exact ⟨_, rfl⟩

theorem encodeChunks_fits_announcement : ∃ chunks,
    encodeChunks rolls (ofString (String.ofList announcement)) defaultMaxMessageBytes = .ok chunks ∧
      (∀ chunk ∈ chunks, utf8ByteLength chunk ≤ Backend.lenPayload) ∧
      Chunked (ofString (String.ofList announcement)) chunks := by
  have size : utf8ByteLength (ofString (String.ofList announcement)) = 214 := by
    rw [utf8ByteLength, toUsv_ofString, length_announcement]
  have large : Backend.lenPayload < utf8ByteLength (ofString (String.ofList announcement)) := by
    rw [size]
    decide
  have few : (ofString (String.ofList announcement)).length ≤ maxChunks := by
    rw [ofString, String.toList_ofList]
    decide
  obtain ⟨chunks, accepted⟩ := @encodeChunks_of_length rolls _ defaultMaxMessageBytes large
    (by rw [size]; decide) few
  obtain ⟨fits, _, chunked⟩ := encodeChunks_fits accepted
  exact ⟨chunks, accepted, fits, chunked large⟩

end RealtimePlatform.Proof.ChunkFrames
