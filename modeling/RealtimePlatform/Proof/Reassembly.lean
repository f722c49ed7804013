import RealtimePlatform.Sdk.Chunking

namespace RealtimePlatform.Proof.Reassembly
open Library Sdk ChunkReassembler

structure ChunkedMessage where
  msgId : Utf16
  pieces : List Utf16
  nonempty : pieces ≠ []
  deriving DecidableEq

structure Arrival where
  message : ChunkedMessage
  index : Nat
  inside : index < message.pieces.length
  now : Int
  seen : Int

def Arrival.header (a : Arrival) : ChunkHeader where
  msgId := a.message.msgId
  index := a.index
  total := a.message.pieces.length
  data := a.message.pieces.get ⟨a.index, a.inside⟩

def arrive (r : ChunkReassembler) (a : Arrival) : Option Utf16 × ChunkReassembler :=
  r.feed a.now a.seen a.header

def arriveAll (r : ChunkReassembler) (arrivals : List Arrival) : ChunkReassembler :=
  arrivals.foldl (fun r a => (arrive r a).2) r

/-- The texts returned, each with the message whose chunk had just arrived. -/
def returned : ChunkReassembler → List Arrival → List (ChunkedMessage × Utf16)
  | _, [] => []
  | r, a :: arrivals =>
    ((arrive r a).1.map fun text => (a.message, text)).toList ++ returned (arrive r a).2 arrivals

def Received (m : ChunkedMessage) (i : Nat) (arrivals : List Arrival) : Prop :=
  ∃ a ∈ arrivals, a.message = m ∧ a.index = i

def Complete (m : ChunkedMessage) (arrivals : List Arrival) : Prop :=
  ∀ i < m.pieces.length, Received m i arrivals

instance (m : ChunkedMessage) (i : Nat) (arrivals : List Arrival) : Decidable (Received m i arrivals) := by
  unfold Received
  infer_instance

instance (m : ChunkedMessage) (arrivals : List Arrival) : Decidable (Complete m arrivals) := by
  unfold Complete
  infer_instance

structure Timely (arrivals : List Arrival) : Prop where
  distinct : ∀ a ∈ arrivals, ∀ b ∈ arrivals, a.message.msgId = b.message.msgId → a.message = b.message
  whole : ∀ a ∈ arrivals, Complete a.message arrivals
  unrepeated : ∀ pre a post, arrivals = pre ++ a :: post → ¬ Complete a.message pre
  fresh : ∀ pre a mid b post, arrivals = pre ++ a :: mid ++ b :: post → a.message = b.message →
    (∀ d ∈ pre, d.message ≠ a.message) → ∀ c ∈ mid ++ [b], c.now - a.seen ≤ reassemblyTtlMs

structure Collects (arrivals : List Arrival) (m : ChunkedMessage) (entry : PendingReassembly) : Prop where
  total : entry.total = m.pieces.length
  parts : ∀ i, AList.lookup i entry.parts = if Received m i arrivals then m.pieces[i]? else none
  first : ∃ pre a post, arrivals = pre ++ a :: post ∧ a.message = m ∧ a.seen = entry.firstSeenAt ∧
    ∀ d ∈ pre, d.message ≠ m

def Tracks (arrivals : List Arrival) (r : ChunkReassembler) : Prop :=
  ∀ id, (AList.lookup id r.pending = none ∧
      ∀ a ∈ arrivals, a.message.msgId = id → Complete a.message arrivals) ∨
    ∃ m entry, m.msgId = id ∧ AList.lookup id r.pending = some entry ∧ Collects arrivals m entry ∧
      ¬ Complete m arrivals

section
variable {arrivals pre post : List Arrival} {a : Arrival} {m : ChunkedMessage} {i : Nat}
  {entry : PendingReassembly} {r : ChunkReassembler}

theorem received_concat : Received m i (pre ++ [a]) ↔ Received m i pre ∨ a.message = m ∧ a.index = i := by
  constructor
  · rintro ⟨b, member, same⟩
    rcases List.mem_append.mp member with before | last
    · exact Or.inl ⟨b, before, same⟩
    · rw [List.mem_singleton] at last
      exact Or.inr (last ▸ same)
  · rintro (⟨b, member, same⟩ | same)
    · exact ⟨b, List.mem_append_left _ member, same⟩
    · exact ⟨a, List.mem_append_right _ List.mem_cons_self, same⟩

theorem complete_concat_ne (apart : a.message ≠ m) : Complete m (pre ++ [a]) ↔ Complete m pre := by
  refine forall_congr' fun i => imp_congr_right fun _ => ?_
  rw [received_concat, or_iff_left fun same => apart same.1]

theorem Collects.concat_ne (collects : Collects pre m entry) (apart : a.message ≠ m) :
    Collects (pre ++ [a]) m entry := by
  obtain ⟨total, parts, before, first, after, split, rest⟩ := collects
  refine ⟨total, ?_, before, first, after ++ [a], ?_, rest⟩
  · intro i
    rw [parts]
    exact if_congr (by rw [received_concat, or_iff_left fun same => apart same.1]) rfl rfl
  · rw [split, List.append_assoc, List.cons_append]

theorem Collects.length_lt_iff (collects : Collects arrivals m entry) :
    entry.parts.keys.length < entry.total ↔ ¬ Complete m arrivals := by
  have within : ∀ i part, AList.lookup i entry.parts = some part → i < m.pieces.length := by
    intro i part found
    rw [collects.parts] at found
    split at found
    · exact List.getElem?_eq_some_iff.mp found |>.1
    · cases found
  rw [collects.total]
  constructor
  · intro short complete
    have all : List.range m.pieces.length ⊆ entry.parts.keys := by
      intro i member
      have inside := List.mem_range.mp member
      have present : (AList.lookup i entry.parts).isSome := by simp [collects.parts, complete i inside, inside]
      exact AList.lookup_isSome.mp present
    have le := (List.subperm_of_subset List.nodup_range all).length_le
    rw [List.length_range] at le
    omega
  · intro incomplete
    by_contra full
    refine incomplete fun i inside => ?_
    have present := AList.lookup_isSome.mpr (Table.mem_of_full within (by omega) inside)
    by_contra missing
    simp [collects.parts, missing] at present

theorem Collects.join_eq (collects : Collects arrivals m entry) (complete : Complete m arrivals) :
    entry.join = m.pieces.flatten := by
  have parts : (List.range m.pieces.length).map (fun i => (AList.lookup i entry.parts).getD []) =
      m.pieces := by
    apply List.ext_getElem
    · rw [List.length_map, List.length_range]
    · intro i _ inside
      simp [collects.parts, complete i inside, inside]
  rw [PendingReassembly.join, collects.total, List.flatMap_def, parts]

theorem lookup_swept (tracks : Tracks pre r) (timely : Timely (pre ++ a :: post)) (id : Utf16) :
    AList.lookup id (r.sweepStale a.now).pending = AList.lookup id r.pending := by
  rw [lookup_sweepStale]
  rcases tracks id with ⟨none, _⟩ | ⟨m, entry, _, found, collects, incomplete⟩
  · rw [none]
    rfl
  · obtain ⟨before, first, after, split, same, seen, rest⟩ := collects.first
    have inPre : first ∈ pre := split ▸ List.mem_append_right _ List.mem_cons_self
    obtain ⟨i, inside, missing⟩ : ∃ i, i < m.pieces.length ∧ ¬ Received m i pre := by
      by_contra none
      push Not at none
      exact incomplete none
    obtain ⟨b, member, sameB, _⟩ := timely.whole first (List.mem_append_left _ inPre) i (same ▸ inside)
    have later : b ∈ a :: post := by
      rcases List.mem_append.mp member with earlier | later
      · exact absurd ⟨b, earlier, sameB.trans same, ‹_›⟩ missing
      · exact later
    have alive : a.now - first.seen ≤ reassemblyTtlMs := by
      rw [← same] at rest
      rcases List.mem_cons.mp later with rfl | inPost
      · exact timely.fresh before first after b post (by rw [split]) sameB.symm rest b
          (List.mem_append_right _ List.mem_cons_self)
      · obtain ⟨mid, tail, rfl⟩ := List.append_of_mem inPost
        exact timely.fresh before first (after ++ a :: mid) b tail (by rw [split]; simp) sameB.symm rest a
          (by simp)
    rw [found, Option.filter_some, if_pos]
    rw [decide_eq_true_eq, ← seen]
    omega

theorem collects_touched (tracks : Tracks pre r) (timely : Timely (pre ++ a :: post)) :
    Collects (pre ++ [a]) a.message (touched a.now a.seen a.header r) := by
  have inside := a.inside
  have here : ∀ d ∈ pre, d.message.msgId = a.message.msgId → d.message = a.message :=
    fun d member => timely.distinct d (List.mem_append_left _ member) a
      (List.mem_append_right _ List.mem_cons_self)
  have swept := lookup_swept tracks timely a.message.msgId
  rcases tracks a.message.msgId with ⟨none, done⟩ | ⟨m, entry, sameId, found, collects, _⟩
  · have fresh : ∀ d ∈ pre, d.message ≠ a.message := by
      intro d member same
      exact timely.unrepeated pre a post rfl (same ▸ done d member (congrArg _ same))
    have entry : touched a.now a.seen a.header r =
        ⟨a.message.pieces.length, AList.insert a.index a.header.data ∅, a.seen⟩ := by
      simp [touched, Arrival.header, swept, none]
    rw [entry]
    refine ⟨rfl, ?_, pre, a, [], rfl, rfl, rfl, fresh⟩
    intro i
    have only : Received a.message i (pre ++ [a]) ↔ a.index = i := by
      rw [received_concat]
      exact ⟨fun either => either.elim (fun ⟨d, member, same, _⟩ => absurd same (fresh d member)) (·.2),
        fun same => Or.inr ⟨rfl, same⟩⟩
    by_cases same : a.index = i
    · subst same
      rw [AList.lookup_insert, if_pos (only.mpr rfl)]
      simp [Arrival.header]
    · rw [AList.lookup_insert_ne (Ne.symm same), if_neg (only.not.mpr same)]
      rfl
  · obtain ⟨before, first, after, split, same, seen, rest⟩ := collects.first
    have inPre : first ∈ pre := split ▸ List.mem_append_right _ List.mem_cons_self
    obtain rfl : m = a.message := same ▸ here first inPre (same ▸ sameId)
    have entry : touched a.now a.seen a.header r =
        { entry with parts := AList.insert a.index a.header.data entry.parts } := by
      simp [touched, Arrival.header, swept, found]
    rw [entry]
    refine ⟨collects.total, ?_, before, first, after ++ [a], by simp [split], same, seen, rest⟩
    intro i
    by_cases same : a.index = i
    · subst same
      have received : Received a.message a.index (pre ++ [a]) := received_concat.mpr (Or.inr ⟨rfl, rfl⟩)
      simp [received, Arrival.header]
    · have kept : Received a.message i (pre ++ [a]) ↔ Received a.message i pre := by
        rw [received_concat, or_iff_left fun now => same now.2]
      rw [AList.lookup_insert_ne (Ne.symm same), collects.parts]
      exact if_congr kept.symm rfl rfl

theorem arrive_step (tracks : Tracks pre r) (timely : Timely (pre ++ a :: post)) :
    (arrive r a).1 = (if Complete a.message (pre ++ [a]) then some a.message.pieces.flatten else none) ∧
      Tracks (pre ++ [a]) (arrive r a).2 := by
  have collects := collects_touched tracks timely
  have apart : ∀ m : ChunkedMessage, m.msgId ≠ a.message.msgId → a.message ≠ m :=
    fun m other same => other (congrArg _ same.symm)
  have others : ∀ id, id ≠ a.message.msgId →
      (AList.lookup id (arrive r a).2.pending = none ∧
        ∀ d ∈ pre ++ [a], d.message.msgId = id → Complete d.message (pre ++ [a])) ∨
      ∃ m entry, m.msgId = id ∧ AList.lookup id (arrive r a).2.pending = some entry ∧
        Collects (pre ++ [a]) m entry ∧ ¬ Complete m (pre ++ [a]) := by
    intro id other
    have kept : AList.lookup id (arrive r a).2.pending = AList.lookup id r.pending :=
      (lookup_feed_ne other).trans (lookup_swept tracks timely id)
    rw [kept]
    rcases tracks id with ⟨none, done⟩ | ⟨m, entry, rfl, found, collected, incomplete⟩
    · refine Or.inl ⟨none, ?_⟩
      rintro d member rfl
      rw [complete_concat_ne (apart d.message other)]
      rcases List.mem_append.mp member with before | last
      · exact done d before rfl
      · rw [List.mem_singleton.mp last] at other
        exact absurd rfl other
    · exact Or.inr ⟨m, entry, rfl, found, collected.concat_ne (apart m other),
        (complete_concat_ne (apart m other)).not.mpr incomplete⟩
  rcases @feed_cases a.now a.seen a.header r with
    ⟨short, fed⟩ | ⟨full, fed⟩
  · have incomplete := collects.length_lt_iff.mp short
    refine ⟨?_, ?_⟩
    · rw [if_neg incomplete, arrive, fed]
    · intro id
      by_cases same : id = a.message.msgId
      · subst same
        exact Or.inr ⟨a.message, _, rfl, by rw [arrive, fed]; exact AList.lookup_insert _, collects,
          incomplete⟩
      · exact others id same
  · have complete : Complete a.message (pre ++ [a]) := by
      by_contra incomplete
      have short := collects.length_lt_iff.mpr incomplete
      omega
    refine ⟨?_, ?_⟩
    · rw [if_pos complete, arrive, fed, collects.join_eq complete]
    · intro id
      by_cases same : id = a.message.msgId
      · subst same
        refine Or.inl ⟨by rw [arrive, fed]; exact AList.lookup_erase .., ?_⟩
        intro d member sameId
        have one : d.message = a.message := by
          rcases List.mem_append.mp member with before | last
          · exact timely.distinct d (List.mem_append_left _ before) a
              (List.mem_append_right _ List.mem_cons_self) sameId
          · rw [List.mem_singleton.mp last]
        exact one ▸ complete
      · exact others id same

theorem arriveAll_concat : arriveAll r (pre ++ [a]) = (arrive (arriveAll r pre) a).2 := by
  rw [arriveAll, List.foldl_append]
  rfl

theorem returned_append (r : ChunkReassembler) (pre post : List Arrival) :
    returned r (pre ++ post) = returned r pre ++ returned (arriveAll r pre) post := by
  induction pre generalizing r with
  | nil => rfl
  | cons a pre ih =>
      rw [List.cons_append, returned, returned, ih, List.append_assoc]
      rfl

theorem tracks_new : Tracks [] new := fun _ => Or.inl ⟨rfl, by simp⟩

theorem tracks_arriveAll (timely : Timely arrivals) (pre post : List Arrival)
    (split : arrivals = pre ++ post) : Tracks pre (arriveAll new pre) := by
  induction pre using List.reverseRecOn generalizing post with
  | nil => exact tracks_new
  | append_singleton pre a ih =>
      rw [arriveAll_concat]
      have split' : arrivals = pre ++ a :: post := by simp [split]
      exact (arrive_step (ih (a :: post) split') (split' ▸ timely)).2

theorem returned_filter (timely : Timely arrivals) (m : ChunkedMessage) (pre post : List Arrival)
    (split : arrivals = pre ++ post) : (returned new pre).filter (·.1 = m) =
      if Complete m pre then [(m, m.pieces.flatten)] else [] := by
  induction pre using List.reverseRecOn generalizing post with
  | nil =>
      have incomplete : ¬ Complete m [] := by
        intro complete
        obtain ⟨_, member, _⟩ := complete 0 (List.length_pos_of_ne_nil m.nonempty)
        cases member
      rw [if_neg incomplete]
      rfl
  | append_singleton pre a ih =>
      have split' : arrivals = pre ++ a :: post := by simp [split]
      have value := (arrive_step (tracks_arriveAll timely pre (a :: post) split') (split' ▸ timely)).1
      rw [returned_append, List.filter_append, ih (a :: post) split']
      simp only [returned, value, List.append_nil]
      by_cases same : a.message = m
      · subst same
        rw [if_neg (timely.unrepeated pre a post split'), List.nil_append]
        by_cases complete : Complete a.message (pre ++ [a]) <;> simp [complete]
      · rw [if_congr (complete_concat_ne same) rfl rfl]
        have other : ∀ text : Option Utf16,
            ((text.map fun text => (a.message, text)).toList.filter (·.1 = m)) = [] := by
          intro text
          cases text <;> simp [same]
        rw [other, List.append_nil]

theorem pending_empty (timely : Timely arrivals) : (arriveAll new arrivals).pending = ∅ := by
  have tracks := tracks_arriveAll timely arrivals [] (List.append_nil _).symm
  have none : ∀ id, AList.lookup id (arriveAll new arrivals).pending = none := by
    intro id
    rcases tracks id with ⟨none, _⟩ | ⟨m, _, _, _, collects, incomplete⟩
    · exact none
    · obtain ⟨before, first, after, split, same, _⟩ := collects.first
      have member : first ∈ arrivals := split ▸ List.mem_append_right _ List.mem_cons_self
      exact absurd (same ▸ timely.whole first member) incomplete
  apply AList.ext
  cases entries : (arriveAll new arrivals).pending.entries with
  | nil => rfl
  | cons e rest =>
      have found := AList.mem_lookup_iff.mpr (entries ▸ List.mem_cons_self : e ∈ _)
      rw [none] at found
      cases found

theorem inTime_of_sorted (sorted : arrivals.Pairwise fun a b => a.now ≤ b.now)
    (within : ∀ a ∈ arrivals, ∀ b ∈ arrivals, a.message = b.message → b.now - a.seen ≤ reassemblyTtlMs)
    (pre : List Arrival) (a : Arrival) (mid : List Arrival) (b : Arrival) (post : List Arrival)
    (split : arrivals = pre ++ a :: mid ++ b :: post) (same : a.message = b.message) :
    ∀ c ∈ mid ++ [b], c.now - a.seen ≤ reassemblyTtlMs := by
  intro c member
  have last : b.now - a.seen ≤ reassemblyTtlMs := within a (by simp [split]) b (by simp [split]) same
  rcases List.mem_append.mp member with between | final
  · rw [split] at sorted
    have before := (List.pairwise_append.mp sorted).2.2 c (by simp [between]) b List.mem_cons_self
    omega
  · rwa [List.mem_singleton.mp final]

end

/-- Of a finite family of messages every chunk arrives: each message is returned once, at its last missing
chunk, with its pieces in order, and nothing stays pending. -/
theorem feed_completes {family : List ChunkedMessage} {arrivals : List Arrival}
    (distinct : ∀ m ∈ family, ∀ n ∈ family, m.msgId = n.msgId → m = n)
    (members : ∀ a ∈ arrivals, a.message ∈ family) (whole : ∀ m ∈ family, Complete m arrivals)
    (unrepeated : ∀ pre a post, arrivals = pre ++ a :: post → ¬ Complete a.message pre)
    (inTime : ∀ pre a mid b post, arrivals = pre ++ a :: mid ++ b :: post → a.message = b.message →
      (∀ d ∈ pre, d.message ≠ a.message) → ∀ c ∈ mid ++ [b], c.now - a.seen ≤ reassemblyTtlMs) :
    (∀ pre a post, arrivals = pre ++ a :: post → (arrive (arriveAll new pre) a).1 =
      if Complete a.message (pre ++ [a]) then some a.message.pieces.flatten else none) ∧
    (∀ m ∈ family, (returned new arrivals).filter (·.1 = m) = [(m, m.pieces.flatten)]) ∧
    (arriveAll new arrivals).pending = ∅ := by
  have timely : Timely arrivals :=
    ⟨fun a inA b inB => distinct _ (members a inA) _ (members b inB), fun a inA => whole _ (members a inA),
      unrepeated, inTime⟩
  refine ⟨?_, ?_, pending_empty timely⟩
  · rintro pre a post rfl
    exact (arrive_step (tracks_arriveAll timely pre (a :: post) rfl) timely).1
  · intro m member
    have once := returned_filter timely m arrivals [] (List.append_nil _).symm
    rwa [if_pos (whole m member)] at once

def greeting : ChunkedMessage := ⟨Utf16.ofString "k7x2", [Utf16.ofString "he", Utf16.ofString "llo"], by decide⟩
def answer : ChunkedMessage := ⟨Utf16.ofString "p0qa", [Utf16.ofString "hi"], by decide⟩

def crossed : List Arrival :=
  [⟨greeting, 1, by decide, 0, 0⟩, ⟨answer, 0, by decide, 10000, 10000⟩, ⟨greeting, 0, by decide, 20000, 20000⟩]

theorem feed_completes_crossed :
    (∀ pre a post, crossed = pre ++ a :: post → (arrive (arriveAll new pre) a).1 =
      if Complete a.message (pre ++ [a]) then some a.message.pieces.flatten else none) ∧
    (∀ m ∈ [greeting, answer], (returned new crossed).filter (·.1 = m) = [(m, m.pieces.flatten)]) ∧
    (arriveAll new crossed).pending = ∅ := by
  refine @feed_completes [greeting, answer] crossed (by decide) (by decide) (by decide) ?_ ?_
  · intro pre a post split
    match pre with
    | [] => cases split; decide
    | [_] => cases split; decide
    | [_, _] => cases split; decide
    | _ :: _ :: _ :: _ => simp [crossed] at split
  · intro pre a mid b post split same _
    exact inTime_of_sorted (by decide) (by decide) pre a mid b post split same

end RealtimePlatform.Proof.Reassembly
