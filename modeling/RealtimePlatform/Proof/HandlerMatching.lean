import RealtimePlatform.Sdk.Session
import RealtimePlatform.Proof.Transcript

namespace RealtimePlatform.Proof.HandlerMatching
open Library Utf16 Backend Backend.Server Backend.UseCases Sdk Transcript

/-- A name that both sides read alike. -/
def Plain (name : String) : Prop := '\x00' ∉ name.toList ∧ name.toList.head? ≠ some '\uFEFF'

theorem asRead_of_plain {name : String} (plain : Plain name) : asRead name = ofString name := by
  have whole : name.toList.takeWhile (· ≠ '\x00') = name.toList := by
    rw [List.takeWhile_eq_self_iff]
    intro c member
    refine decide_eq_true ?_
    rintro rfl
    exact plain.1 member
  rw [asRead, whole, TextDecoder.dropMark, if_neg plain.2, ofString]

theorem wellFormed_asRead (text : String) : WellFormed (asRead text) := by
  have same : asRead text = ofString (String.ofList (TextDecoder.dropMark
      (text.toList.takeWhile (· ≠ '\x00')))) := by
    rw [ofString, String.toList_ofList, asRead]
  rw [same]
  exact wellFormed_ofString _

theorem asRead_eq_iff {text name : String} (short : text.toList.length ≤ name.toList.length) :
    asRead text = ofString name ↔ text = name ∧ Plain name := by
  constructor
  · intro same
    have chars : TextDecoder.dropMark (text.toList.takeWhile (· ≠ '\x00')) = name.toList := by
      have texts : ofString (String.ofList (TextDecoder.dropMark
          (text.toList.takeWhile (· ≠ '\x00')))) = ofString name := by
        rw [← same, ofString, String.toList_ofList, asRead]
      rw [← ofString_injective texts, String.toList_ofList]
    have taken : (text.toList.takeWhile (· ≠ '\x00')).length ≤ text.toList.length :=
      (List.takeWhile_prefix _).length_le
    have unmarked : (text.toList.takeWhile (· ≠ '\x00')).head? ≠ some '\uFEFF' := by
      intro marked
      obtain ⟨rest, cells⟩ := List.head?_eq_some_iff.mp marked
      rw [TextDecoder.dropMark, if_pos marked] at chars
      rw [← chars, cells] at short
      rw [cells, List.length_cons] at taken
      rw [List.tail_cons] at short
      omega
    rw [TextDecoder.dropMark, if_neg unmarked] at chars
    have whole : text.toList.takeWhile (· ≠ '\x00') = text.toList :=
      (List.takeWhile_prefix _).eq_of_length (by rw [chars] at taken ⊢; omega)
    have equal : text = name := String.toList_inj.mp (whole.symm.trans chars)
    subst equal
    rw [whole] at unmarked
    refine ⟨rfl, ?_, unmarked⟩
    intro nul
    rw [← whole] at nul
    have passed := List.mem_takeWhile_imp nul
    simp at passed
  · rintro ⟨rfl, plain⟩
    exact asRead_of_plain plain

theorem length_trimEndNul_le (text : String) :
    (trimEndNul text).toList.length ≤ text.toList.length := by
  rw [trimEndNul, String.toList_ofList]
  exact (List.rdropWhile_prefix _ _).length_le

theorem length_fitting_le (width : Nat) (cs : List Char) : (fitting width cs).length ≤ cs.length := by
  obtain ⟨rest, split, _⟩ := fitting_append width cs
  have lengths := congrArg List.length split
  rw [List.length_append] at lengths
  omega

theorem length_le_of_carried {frame : Frame} {key : ChannelKey} (carried : Carried frame key) :
    frame.channelId.toList.length ≤ key.channelId.toList.length := by
  cases carried with
  | named => exact Nat.le_refl _
  | inbox =>
      simp only [inboxKey, unicastInboxChannel, String.toList_append, List.length_append]
      omega
  | posted opcode channel =>
      rw [channel]
      exact length_trimEndNul_le _
  | announced opcode channel =>
      rw [channel]
      refine Nat.le_trans (length_trimEndNul_le _) ?_
      rw [String.toList_ofList]
      exact length_fitting_le lenChannel _

/-- Whether the client takes what is read in the channel field for the key. -/
def Heard (key channelId : Utf16) : Prop :=
  key = channelId ∨ star ∈ key ∧ globMatch key channelId = true

theorem callsOf_pos_iff (key channelId : Utf16) : 0 < callsOf key channelId ↔ Heard key channelId := by
  unfold callsOf Heard
  by_cases exact : key = channelId <;> by_cases hit : star ∈ key ∧ globMatch key channelId = true <;>
    simp [exact, hit]

theorem heard_iff {key : Utf16} (fits : utf8ByteLength key ≤ lenChannel) (plain : 0 ∉ key)
    {tenantId : TenantId} {frame : Frame} {channel : ChannelKey} (carried : Carried frame channel)
    (hit : (sourceNamed tenantId (subscribedName key)).matches channel = true) :
    Heard key (asRead frame.channelId) ↔
      frame.channelId = channel.channelId ∧ Plain frame.channelId ∧ WellFormed key ∨
        star ∈ key ∧ globMatch key (asRead frame.channelId) = true := by
  have reading := asRead_eq_iff (length_le_of_carried carried)
  rw [subscribedName_of_fits fits plain, sourceNamed] at hit
  by_cases pattern : star ∈ key
  · rw [if_pos ((star_mem_iff key).mp pattern)] at hit
    have routed : Backend.globMatch (toUsv key) channel.channelId = true :=
      ((Bool.and_eq_true _ _).mp hit).2
    constructor
    · rintro (same | matched)
      · refine Or.inr ⟨pattern, ?_⟩
        rw [← same]
        exact glob_self star key
      · exact Or.inr matched
    · rintro (⟨named, whole, text⟩ | matched)
      · refine Or.inr ⟨pattern, ?_⟩
        rw [reading.mpr ⟨named, named ▸ whole⟩, ← text, globMatch_eq]
        exact routed
      · exact Or.inr matched
  · rw [if_neg (by simp [isPattern_eq_false pattern])] at hit
    have own : toUsv key = channel.channelId :=
      (ChannelKey.mk.inj (of_decide_eq_true hit : ChannelKey.mk tenantId (toUsv key) = channel)).2
    constructor
    · rintro (same | ⟨starred, _⟩)
      · have text : WellFormed key := same ▸ wellFormed_asRead frame.channelId
        have read : asRead frame.channelId = ofString channel.channelId := by
          rw [← same, ← own, text]
        obtain ⟨named, whole⟩ := reading.mp read
        exact Or.inl ⟨named, named ▸ whole, text⟩
      · exact absurd starred pattern
    · rintro (⟨named, whole, text⟩ | ⟨starred, _⟩)
      · refine Or.inl ?_
        rw [reading.mpr ⟨named, named ▸ whole⟩, ← own, text]
      · exact absurd starred pattern

theorem called_iff {η : Type*} [DecidableEq η] {client : RealtimeClient η}
    {arrival : RealtimeClient.Arrival} {frame : Frame} (own : arrival.raw = frame.raw.toList)
    {key : Utf16} {handlers : List η} (registered : client.subscriptions.get key = some handlers) :
    (∀ handler ∈ handlers, ∃ call ∈ (client.onmessage arrival).1,
        call.key = key ∧ call.handler = handler) ↔
      (delivered client arrival frame).isSome = true ∧ Heard key (asRead frame.channelId) := by
  have each : ∀ handler ∈ handlers, (∃ call ∈ (client.onmessage arrival).1,
      call.key = key ∧ call.handler = handler) ↔
        (delivered client arrival frame).isSome = true ∧ Heard key (asRead frame.channelId) := by
    intro handler member
    have count := countP_onmessage client arrival own registered member
    rw [← callsOf_pos_iff]
    constructor
    · rintro ⟨call, made, mine⟩
      have pos : 0 < (client.onmessage arrival).1.countP
          (fun call => call.key = key ∧ call.handler = handler) :=
        List.countP_pos_iff.mpr ⟨call, made, decide_eq_true mine⟩
      rw [count] at pos
      split at pos
      · exact ⟨‹_›, pos⟩
      · exact absurd pos (Nat.lt_irrefl 0)
    · rintro ⟨complete, pos⟩
      rw [if_pos complete] at count
      rw [← count] at pos
      obtain ⟨call, made, mine⟩ := List.countP_pos_iff.mp pos
      exact ⟨call, made, of_decide_eq_true mine⟩
  constructor
  · intro all
    obtain ⟨before, after, entries, _⟩ :=
      List.lookup_eq_some_iff.mp (registered : client.subscriptions.entries.lookup key = some handlers)
    have kept := client.subscriptions.registered (key, handlers) (by rw [entries]; simp)
    obtain ⟨handler, member⟩ := List.exists_mem_of_ne_nil handlers kept.1
    exact (each handler member).mp (all handler member)
  · intro heard handler member
    exact (each handler member).mpr heard

/-- The handlers of a key are called for a frame that the key's relay has written exactly when the frame
completes a text and holds the whole name of the channel it was published on, and the key is a text, or
the key is a pattern that matches what the frame holds. -/
theorem handlers_called_iff {env : Env} {config : RateLimitConfig} {timeout : Nat}
    {hasRedis hasWebPush : Bool} {es : List Event} {server : Server} {s : SessionId} {c : Connection}
    {item : Queued} {η : Type*} [DecidableEq η] {client : RealtimeClient η} {key : Utf16}
    {handlers : List η}
    (reached : (step env).run (start config timeout hasRedis hasWebPush) es = some server)
    (there : server.connections s = some c) (written : .relayed item ∈ c.written)
    (registered : client.subscriptions.get key = some handlers)
    (fits : utf8ByteLength key ≤ lenChannel) (plain : 0 ∉ key)
    (via : item.via = .relay (sourceNamed client.tenantId (subscribedName key))) :
    ∃ frame : Frame, item.message.frame = frame.raw ∧ Carried frame item.message.key ∧
      ∀ arrival : RealtimeClient.Arrival, arrival.raw = item.message.frame.toList →
        ((∀ handler ∈ handlers, ∃ call ∈ (client.onmessage arrival).1,
            call.key = key ∧ call.handler = handler) ↔
          (delivered client arrival frame).isSome = true ∧
            (frame.channelId = item.message.key.channelId ∧ Plain frame.channelId ∧ WellFormed key ∨
              star ∈ key ∧ globMatch key (asRead frame.channelId) = true)) := by
  have relayed : isRelayed item = true := by
    rw [isRelayed, via]
  obtain ⟨rightly, frame, raw, carried⟩ := rightly_of_written reached there written relayed
  obtain ⟨source, same, hit⟩ := rightly.source
  rw [via, Via.relay.injEq] at same
  refine ⟨frame, raw, carried, fun arrival own => ?_⟩
  rw [raw] at own
  rw [called_iff own registered, heard_iff fits plain carried (same ▸ hit)]

section Sample
open SampleToken Sample

def inboxName : Utf16 := ofString "user:b"

def listener : RealtimeClient Unit where
  tenantId := tenantOne
  open_ := true
  subscriptions := Subscriptions.empty.add inboxName ()
  reassembler := .new
  pendingSends := []

theorem subscribedName_inboxName : subscribedName inboxName = "user:b" := by
  have fits : utf8ByteLength inboxName ≤ lenChannel := by decide
  rw [subscribedName_of_fits fits (by decide), inboxName, toUsv_ofString]

theorem source_inboxName : Source.channel (namedKey inboxSub) =
    sourceNamed listener.tenantId (subscribedName inboxName) := by
  have exact : isPattern "user:b" = false := by decide
  rw [namedKey_inboxSub, subscribedName_inboxName, sourceNamed, exact]
  rfl

theorem handlers_called_iff_overheard : ∃ frame : Frame, toBobParsed.raw = frame.raw ∧
    Carried frame inboxOfBob ∧
      ∀ arrival : RealtimeClient.Arrival, arrival.raw = toBobParsed.raw.toList →
        ((∀ handler ∈ [()], ∃ call ∈ (listener.onmessage arrival).1,
            call.key = inboxName ∧ call.handler = handler) ↔
          (delivered listener arrival frame).isSome = true ∧
            (frame.channelId = inboxOfBob.channelId ∧ Plain frame.channelId ∧ WellFormed inboxName ∨
              star ∈ inboxName ∧ globMatch inboxName (asRead frame.channelId) = true)) :=
  handlers_called_iff run_overheard connections_overheard List.mem_cons_self rfl (by decide)
    (by decide) (congrArg Via.relay source_inboxName)

theorem unheard_overheard :
    ¬ ∀ (env : Env) (config : RateLimitConfig) (timeout : Nat) (hasRedis hasWebPush : Bool)
      (es : List Event) (server : Server) (s : SessionId) (c : Connection) (item : Queued)
      (client : RealtimeClient Unit) (key : Utf16) (handlers : List Unit) (frame : Frame)
      (arrival : RealtimeClient.Arrival),
      (step env).run (start config timeout hasRedis hasWebPush) es = some server →
        server.connections s = some c → .relayed item ∈ c.written →
        client.subscriptions.get key = some handlers → utf8ByteLength key ≤ lenChannel → 0 ∉ key →
        item.via = .relay (sourceNamed client.tenantId (subscribedName key)) →
        item.message.frame = frame.raw → parseChunk (asRead frame.payload) = none →
        arrival.raw = item.message.frame.toList →
        ∀ handler ∈ handlers, ∃ call ∈ (client.onmessage arrival).1,
          call.key = key ∧ call.handler = handler := by
  intro claim
  have called := claim env {} 30000000000 false false overheardEvents overheard sessionOne overhearing
    ⟨message, .relay (.channel (namedKey inboxSub))⟩ listener inboxName [()] toBobParsed
    ⟨message.frame.toList, 0, 0, 0⟩ run_overheard connections_overheard List.mem_cons_self rfl
    (by decide) (by decide) (congrArg Via.relay source_inboxName) rfl
    (by decide) rfl
  have own : (⟨message.frame.toList, 0, 0, 0⟩ : RealtimeClient.Arrival).raw = toBobParsed.raw.toList :=
    rfl
  have heard := ((called_iff own rfl).mp called).2
  have silent : ¬ Heard inboxName (asRead toBobParsed.channelId) := by
    rw [← callsOf_pos_iff]
    decide
  exact silent heard

end Sample

end RealtimePlatform.Proof.HandlerMatching
