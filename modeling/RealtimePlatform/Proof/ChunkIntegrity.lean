import RealtimePlatform.Sdk.Client
import RealtimePlatform.Library.Transition

namespace RealtimePlatform.Proof.ChunkIntegrity
open Library Sdk ChunkReassembler

structure Incoming where
  frame : DecodedFrame
  now : Int
  seen : Int
  receivedAt : Int

/-- A client with what it has received and delivered; `begunOn` is the channel of the frame that began
each pending entry. -/
structure Inbox (η : Type*) where
  client : RealtimeClient η
  begunOn : Table Utf16 Utf16
  received : List DecodedFrame
  delivered : List RealtimeMessage

variable {η : Type*}

def entryAt (r : ChunkReassembler) (now : Int) (msgId : Utf16) : Option PendingReassembly :=
  AList.lookup msgId (r.sweepStale now).pending

def mark (r : ChunkReassembler) (e : Incoming) (begunOn : Table Utf16 Utf16) : Table Utf16 Utf16 :=
  match parseChunk e.frame.payload with
  | none => begunOn
  | some h => if (entryAt r e.now h.msgId).isSome then begunOn else AList.insert h.msgId e.frame.channelId begunOn

def reassembled (e : Incoming) (message : Option RealtimeMessage) : List RealtimeMessage :=
  if (parseChunk e.frame.payload).isSome then message.toList else []

def Inbox.step : Step (Inbox η) Incoming := fun s e =>
  let result := s.client.dispatch e.now e.seen e.receivedAt e.frame
  some
    { client := result.2.2
      begunOn := mark s.client.reassembler e s.begunOn
      received := s.received ++ [e.frame]
      delivered := s.delivered ++ reassembled e result.1 }

def Carries (channelId msgId : Utf16) (total i : Nat) (part : Utf16) (f : DecodedFrame) : Prop :=
  f.channelId = channelId ∧ parseChunk f.payload = some ⟨msgId, i, total, part⟩

/-- The text of a message is put together from all the chunks of one message on its channel. -/
def Intact (received : List DecodedFrame) (m : RealtimeMessage) : Prop :=
  ∃ msgId total parts, m.payload = (List.range total).flatMap parts ∧
    ∀ i < total, ∃ f ∈ received, Carries m.channelId msgId total i (parts i) f

/-- A chunk begins an entry, or is added to one begun on its channel with its total. -/
def Matched (s : Inbox η) (e : Incoming) : Prop :=
  ∀ h, parseChunk e.frame.payload = some h → ∀ entry,
    entryAt s.client.reassembler e.now h.msgId = some entry →
    entry.total = h.total ∧ AList.lookup h.msgId s.begunOn = some e.frame.channelId

def Unmixed (received : List DecodedFrame) (channelId msgId : Utf16) (entry : PendingReassembly) : Prop :=
  ∀ i part, AList.lookup i entry.parts = some part →
    i < entry.total ∧ ∃ f ∈ received, Carries channelId msgId entry.total i part f

structure Sound (s : Inbox η) : Prop where
  unmixed : ∀ id entry, AList.lookup id s.client.reassembler.pending = some entry →
    ∃ channelId, AList.lookup id s.begunOn = some channelId ∧ Unmixed s.received channelId id entry
  intact : ∀ m ∈ s.delivered, Intact s.received m

theorem Unmixed.mono {received more : List DecodedFrame} {channelId msgId : Utf16} {entry : PendingReassembly}
    (unmixed : Unmixed received channelId msgId entry) : Unmixed (received ++ more) channelId msgId entry := by
  intro i part found
  obtain ⟨inside, f, member, carries⟩ := unmixed i part found
  exact ⟨inside, f, List.mem_append_left _ member, carries⟩

theorem Intact.mono {received more : List DecodedFrame} {m : RealtimeMessage} (intact : Intact received m) :
    Intact (received ++ more) m := by
  obtain ⟨msgId, total, parts, text, all⟩ := intact
  refine ⟨msgId, total, parts, text, fun i inside => ?_⟩
  obtain ⟨f, member, carries⟩ := all i inside
  exact ⟨f, List.mem_append_left _ member, carries⟩

theorem Unmixed.full {received : List DecodedFrame} {channelId msgId : Utf16} {entry : PendingReassembly}
    (unmixed : Unmixed received channelId msgId entry) (full : entry.total ≤ entry.parts.keys.length)
    (i : Nat) (inside : i < entry.total) : ∃ part, AList.lookup i entry.parts = some part := by
  have within : ∀ k part, AList.lookup k entry.parts = some part → k < entry.total :=
    fun k part found => (unmixed k part found).1
  exact Option.isSome_iff_exists.mp (AList.lookup_isSome.mpr (Table.mem_of_full within full inside))

theorem Unmixed.intact {received : List DecodedFrame} {channelId msgId : Utf16} {entry : PendingReassembly}
    (unmixed : Unmixed received channelId msgId entry) (full : entry.total ≤ entry.parts.keys.length)
    {m : RealtimeMessage} (channel : m.channelId = channelId) (text : m.payload = entry.join) :
    Intact received m := by
  refine ⟨msgId, entry.total, fun i => (AList.lookup i entry.parts).getD [], text, ?_⟩
  intro i inside
  obtain ⟨part, found⟩ := unmixed.full full i inside
  simpa only [found, Option.getD_some, channel] using (unmixed i part found).2

theorem entryAt_subset {r : ChunkReassembler} {now : Int} {id : Utf16} {entry : PendingReassembly}
    (found : entryAt r now id = some entry) : AList.lookup id r.pending = some entry := by
  rw [entryAt, lookup_sweepStale, Option.filter_eq_some_iff] at found
  exact found.1

section
variable {s : Inbox η} {e : Incoming} {h : ChunkHeader}

theorem unmixed_touched (sound : Sound s) (matched : Matched s e)
    (parsed : parseChunk e.frame.payload = some h) :
    AList.lookup h.msgId (mark s.client.reassembler e s.begunOn) = some e.frame.channelId ∧
      Unmixed (s.received ++ [e.frame]) e.frame.channelId h.msgId
        (touched e.now e.seen h s.client.reassembler) := by
  have own : ∀ total, h.total = total → h.index < total ∧
      ∃ f ∈ s.received ++ [e.frame], Carries e.frame.channelId h.msgId total h.index h.data f := by
    rintro _ rfl
    exact ⟨index_lt_of_parseChunk parsed, e.frame, by simp, rfl, parsed⟩
  cases found : entryAt s.client.reassembler e.now h.msgId with
  | none =>
      have entry : touched e.now e.seen h s.client.reassembler =
          ⟨h.total, AList.insert h.index h.data ∅, e.seen⟩ := by
        unfold touched
        unfold entryAt at found
        rw [found]
        rfl
      constructor
      · simp [mark, parsed, found]
      · rw [entry]
        intro i part stored
        by_cases same : i = h.index
        · subst same
          rw [AList.lookup_insert] at stored
          cases stored
          exact own h.total rfl
        · rw [AList.lookup_insert_ne same] at stored
          cases stored
  | some old =>
      obtain ⟨total, begun⟩ := matched h parsed old found
      obtain ⟨channelId, known, unmixed⟩ := sound.unmixed h.msgId old (entryAt_subset found)
      rw [begun] at known
      cases known
      have entry : touched e.now e.seen h s.client.reassembler =
          { old with parts := AList.insert h.index h.data old.parts } := by
        unfold touched
        unfold entryAt at found
        rw [found]
        rfl
      constructor
      · simp [mark, parsed, found, begun]
      · rw [entry]
        intro i part stored
        by_cases same : i = h.index
        · subst same
          rw [AList.lookup_insert] at stored
          cases stored
          exact own old.total total.symm
        · rw [AList.lookup_insert_ne same] at stored
          exact unmixed.mono i part stored

theorem lookup_mark_ne (parsed : parseChunk e.frame.payload = some h) {id : Utf16} (apart : id ≠ h.msgId) :
    AList.lookup id (mark s.client.reassembler e s.begunOn) = AList.lookup id s.begunOn := by
  unfold mark
  rw [parsed]
  dsimp only
  split
  · rfl
  · exact AList.lookup_insert_ne apart

theorem dispatch_chunk (parsed : parseChunk e.frame.payload = some h) :
    let fed := s.client.reassembler.feed e.now e.seen h
    let result := s.client.dispatch e.now e.seen e.receivedAt e.frame
    result.2.2.reassembler = fed.2 ∧ result.1 = fed.1.map fun payload =>
      { channelId := e.frame.channelId, payload, tenantId := e.frame.tenantId, receivedAt := e.receivedAt } := by
  have text : assemble e.now e.seen e.frame.payload s.client.reassembler =
      s.client.reassembler.feed e.now e.seen h := by
    rw [assemble, parsed]
  simp only [RealtimeClient.dispatch, text]
  cases s.client.reassembler.feed e.now e.seen h with
  | mk text r => cases text <;> exact ⟨rfl, rfl⟩

theorem dispatch_plain (parsed : parseChunk e.frame.payload = none) :
    (s.client.dispatch e.now e.seen e.receivedAt e.frame).2.2.reassembler = s.client.reassembler := by
  have text : assemble e.now e.seen e.frame.payload s.client.reassembler =
      (some e.frame.payload, s.client.reassembler) := by
    rw [assemble, parsed]
  simp only [RealtimeClient.dispatch, text]

theorem sound_step {t : Inbox η} (sound : Sound s) (matched : Matched s e) (next : Inbox.step s e = some t) :
    Sound t := by
  cases next
  cases parsed : parseChunk e.frame.payload with
  | none =>
      constructor
      · intro id entry found
        rw [show mark s.client.reassembler e s.begunOn = s.begunOn by simp [mark, parsed]]
        rw [dispatch_plain parsed] at found
        obtain ⟨channelId, begun, unmixed⟩ := sound.unmixed id entry found
        exact ⟨channelId, begun, unmixed.mono⟩
      · intro m member
        rw [reassembled, parsed] at member
        exact (sound.intact m (by simpa using member)).mono
  | some h =>
      obtain ⟨begun, unmixed⟩ := unmixed_touched sound matched parsed
      obtain ⟨reassembler, message⟩ := dispatch_chunk (s := s) parsed
      have others : ∀ id, id ≠ h.msgId → ∀ entry,
          AList.lookup id (s.client.dispatch e.now e.seen e.receivedAt e.frame).2.2.reassembler.pending = some entry →
          ∃ channelId, AList.lookup id (mark s.client.reassembler e s.begunOn) = some channelId ∧
            Unmixed (s.received ++ [e.frame]) channelId id entry := by
        intro id other entry found
        rw [reassembler, lookup_feed_ne other] at found
        obtain ⟨channelId, known, pure⟩ := sound.unmixed id entry (entryAt_subset found)
        exact ⟨channelId, by rwa [lookup_mark_ne parsed other], pure.mono⟩
      rcases @feed_cases e.now e.seen h s.client.reassembler with
        ⟨_, fed⟩ | ⟨full, fed⟩
      · rw [fed] at reassembler message
        constructor
        · intro id entry found
          by_cases same : id = h.msgId
          · subst same
            rw [reassembler, AList.lookup_insert] at found
            cases found
            exact ⟨_, begun, unmixed⟩
          · exact others id same entry found
        · intro m member
          rw [reassembled, message, parsed] at member
          exact (sound.intact m (by simpa using member)).mono
      · rw [fed] at reassembler message
        constructor
        · intro id entry found
          by_cases same : id = h.msgId
          · subst same
            rw [reassembler, AList.lookup_erase] at found
            cases found
          · exact others id same entry found
        · intro m member
          rw [reassembled, message, parsed] at member
          rcases List.mem_append.mp member with old | last
          · exact (sound.intact m old).mono
          · simp only [Option.isSome_some, if_true, Option.map_some, Option.toList_some,
              List.mem_singleton] at last
            exact unmixed.intact full (by rw [last]) (by rw [last])

end

/-- In a run in which every chunk begins an entry or is added to one of its channel and total, whatever
has been delivered is intact. -/
theorem delivered_intact {s t : Inbox η} {es : List Incoming} (fresh : s.client.reassembler = new)
    (nothing : s.delivered = []) (run : Inbox.step.run s es = some t) (matched : Inbox.step.Meets Matched s es) :
    Inbox.step.Throughout (fun u => ∀ m ∈ u.delivered, Intact u.received m) s es := by
  have start : Sound s := by
    constructor
    · intro id entry found
      rw [fresh] at found
      cases found
    · rw [nothing]
      simp
  rw [Step.throughout_iff_prefixes]
  rintro ds u ⟨rest, rfl⟩ reached
  have met := ((Step.meets_append reached).mp matched).1
  exact (Step.run_invariant_of_meets (fun _ _ _ => sound_step) reached start met).intact

def idle : Inbox Unit :=
  ⟨⟨List.Vector.replicate 16 0, true, .empty, new, []⟩, ∅, [], []⟩

def chunkOn (channelId : String) (index : Nat) (data : String) : Incoming where
  frame :=
    { opcode := .publish
      tenantId := List.Vector.replicate 16 0
      channelId := Utf16.ofString channelId
      payload := chunkPayload (Utf16.ofString "k7x2") index 2 (Utf16.ofString data)
      raw := encodeFrame ⟨.publish, List.Vector.replicate 16 0, Utf16.ofString channelId,
        chunkPayload (Utf16.ofString "k7x2") index 2 (Utf16.ofString data)⟩ }
  now := 0
  seen := 0
  receivedAt := 0

def collision : List Incoming := [chunkOn "room-a" 0 "he", chunkOn "room-b" 1 "llo"]

theorem collision_mixes : ¬ ∀ es : List Incoming,
    Inbox.step.Throughout (fun u => ∀ m ∈ u.delivered, Intact u.received m) idle es := by
  intro always
  have delivered : (Inbox.step.run idle collision).map (fun u =>
      (u.delivered.map fun m => (m.channelId, m.payload), u.received)) =
      some ([(Utf16.ofString "room-b", Utf16.ofString "hello")], collision.map (·.frame)) := by
    rw [Option.map_eq_some_iff]
    refine ⟨_, rfl, Prod.ext ?_ rfl⟩
    decide +kernel
  obtain ⟨t, reached, same⟩ := Option.map_eq_some_iff.mp delivered
  obtain ⟨texts, received⟩ := Prod.mk.inj same
  obtain ⟨m, only, text⟩ := List.map_eq_singleton_iff.mp texts
  obtain ⟨channel, payload⟩ := Prod.mk.inj text
  have held := Step.throughout_iff_prefixes.mp (always collision) collision t List.prefix_rfl reached
  obtain ⟨msgId, total, parts, joined, all⟩ := held m (only ▸ List.mem_cons_self)
  rw [received, channel] at all
  have some : 0 < total := by
    rcases Nat.eq_zero_or_pos total with rfl | pos
    · rw [payload, List.range_zero, List.flatMap_nil] at joined
      exact absurd joined (by decide)
    · exact pos
  obtain ⟨f, member, onChannel, parsed⟩ := all 0 some
  rcases List.mem_cons.mp member with rfl | later
  · exact absurd onChannel (by decide)
  · rw [List.mem_singleton.mp later] at parsed
    have read : (parseChunk (chunkOn "room-b" 1 "llo").frame.payload).map (·.index) = Option.some 1 := by
      decide +kernel
    have index := congrArg (Option.map ChunkHeader.index) parsed
    exact Nat.one_ne_zero (Option.some.inj (read.symm.trans index))

theorem delivered_intact_plain : Inbox.step.Throughout
    (fun u => ∀ m ∈ u.delivered, Intact u.received m) idle [chunkOn "room-a" 0 "he", chunkOn "room-a" 1 "llo"] := by
  refine delivered_intact rfl rfl rfl ⟨?_, fun u next => ⟨?_, fun _ _ => trivial⟩⟩
  · intro h _ entry found
    cases found
  · intro h parsed entry found
    cases next
    have read := @parseChunk_chunkPayload (Utf16.ofString "k7x2") rfl _ _ (Nat.lt_succ_self 1) (by decide)
      (Utf16.ofString "llo")
    obtain rfl := Option.some.inj (read.symm.trans parsed)
    have total : (entryAt (idle.client.dispatch 0 0 0 (chunkOn "room-a" 0 "he").frame).2.2.reassembler 0
        (Utf16.ofString "k7x2")).map (·.total) = some 2 := by
      decide +kernel
    have begun : AList.lookup (Utf16.ofString "k7x2") (mark new (chunkOn "room-a" 0 "he") ∅) =
        some (Utf16.ofString "room-a") := by
      decide +kernel
    have sameTotal := (congrArg (Option.map PendingReassembly.total) found).symm.trans total
    exact ⟨Option.some.inj sameTotal, begun⟩

end RealtimePlatform.Proof.ChunkIntegrity
