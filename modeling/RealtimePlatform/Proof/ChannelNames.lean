import RealtimePlatform.Proof.HandlerDelivery

namespace RealtimePlatform.Proof.ChannelNames
open Library Utf16 Backend Backend.Server Sdk Transcript HandlerDelivery
open HandlerMatching (Plain asRead_eq_iff asRead_of_plain wellFormed_asRead length_trimEndNul_le length_fitting_le)

/-- A name that a field holds whole and that both sides read alike. -/
def Kept (name : Utf16) : Prop :=
  WellFormed name ∧ utf8ByteLength name ≤ lenChannel ∧ Plain (toUsv name)

theorem length_subscribedName_le (name : Utf16) :
    (subscribedName name).toList.length ≤ (cut lenChannel name).toList.length :=
  length_trimEndNul_le _

theorem toList_cut (width : Nat) (name : Utf16) : (cut width name).toList = fitting width (scalars name) :=
  String.toList_ofList

theorem asRead_subscribedName_iff (name : Utf16) : asRead (subscribedName name) = name ↔ Kept name := by
  have short : (subscribedName name).toList.length ≤ (toUsv name).toList.length := by
    refine Nat.le_trans (length_subscribedName_le name) ?_
    rw [toList_cut, toList_toUsv]
    exact length_fitting_le lenChannel _
  have reading := asRead_eq_iff short
  constructor
  · intro same
    have text : WellFormed name := same ▸ wellFormed_asRead (subscribedName name)
    obtain ⟨whole, plain⟩ := reading.mp (same.trans text.symm)
    have long : (toUsv name).toList.length ≤ (cut lenChannel name).toList.length := by
      rw [← whole]
      exact length_subscribedName_le name
    rw [toList_toUsv, toList_cut] at long
    obtain ⟨rest, split, -⟩ := fitting_append lenChannel (scalars name)
    have complete : fitting lenChannel (scalars name) = scalars name := by
      have pre : fitting lenChannel (scalars name) <+: scalars name := ⟨rest, split.symm⟩
      exact pre.eq_of_length_le long
    have fits := length_utf8_cut_le lenChannel name
    rw [cut, complete] at fits
    exact ⟨text, fits, plain⟩
  · rintro ⟨text, fits, plain⟩
    have named : subscribedName name = toUsv name := by
      rw [subscribedName, cut_of_fits fits, trimEndNul_of_plain plain.1]
    exact (reading.mpr ⟨named, plain⟩).trans text

theorem isPattern_subscribedName {name : Utf16} (exact : star ∉ name) : isPattern (subscribedName name) = false := by
  have plain := isPattern_eq_false exact
  rw [isPattern, toList_toUsv, Bool.eq_false_iff, Ne, List.contains_iff_mem] at plain
  rw [isPattern, Bool.eq_false_iff, Ne, List.contains_iff_mem]
  intro member
  apply plain
  rw [subscribedName, trimEndNul, String.toList_ofList] at member
  have inside := (List.rdropWhile_prefix _ _).subset member
  rw [toList_cut] at inside
  obtain ⟨rest, split, -⟩ := fitting_append lenChannel (scalars name)
  rw [split]
  exact List.mem_append_left _ inside

theorem callsOf_exact {key : Utf16} (exact : star ∉ key) (channelId : Utf16) :
    callsOf key channelId = if key = channelId then 1 else 0 := by
  simp [callsOf, exact]

section
variable {η : Type*}

/-- One of the frames of a publish is handed on where it arrives: the text is complete. -/
def HandedOn (x : Exchange η) (channel : Utf16) (chunks : List Utf16) : Prop :=
  ∃ chunk ∈ chunks, 0 < timesHanded (pubMessage x.client.tenantId channel chunk)
    (pubFrame x.client.tenantId channel chunk) x.arrivals x.client

/-- The handler of a name is called for one of the frames of a publish. -/
def Called [DecidableEq η] (x : Exchange η) (name channel : Utf16) (handler : η) (chunks : List Utf16) : Prop :=
  ∃ chunk ∈ chunks, 0 < timesCalled (pubMessage x.client.tenantId channel chunk) name handler x.arrivals x.client

theorem called_iff [DecidableEq η] (x : Exchange η) {name channel : Utf16} {handlers : List η} {handler : η}
    (chunks : List Utf16) (exact : Sdk.star ∉ name) (registered : x.client.subscriptions.get name = some handlers)
    (member : handler ∈ handlers) :
    Called x name channel handler chunks ↔
      name = asRead (subscribedName channel) ∧ HandedOn x channel chunks := by
  have each : ∀ chunk, 0 < timesCalled (pubMessage x.client.tenantId channel chunk) name handler x.arrivals
        x.client ↔
      name = asRead (subscribedName channel) ∧ 0 < timesHanded (pubMessage x.client.tenantId channel chunk)
        (pubFrame x.client.tenantId channel chunk) x.arrivals x.client := by
    intro chunk
    have own : (pubMessage x.client.tenantId channel chunk).frame =
      (pubFrame x.client.tenantId channel chunk).raw := rfl
    have named : (pubFrame x.client.tenantId channel chunk).channelId = subscribedName channel := rfl
    rw [timesCalled_eq own member x.arrives.bytes registered, named, callsOf_exact exact]
    split
    · rename_i same
      simp [same]
    · rename_i apart
      simp [apart]
  simp only [Called, HandedOn, each]
  constructor
  · rintro ⟨chunk, sent, same, handed⟩
    exact ⟨same, chunk, sent, handed⟩
  · rintro ⟨same, chunk, sent, handed⟩
    exact ⟨chunk, sent, same, handed⟩

theorem handedOn_iff (x : Exchange η) {channel text : Utf16}
    (fresh : pubMessage x.client.tenantId channel text ∉ publications x.first.ctx.channelRouter)
    (published : pubMessage x.client.tenantId channel text ∈ publications x.server.ctx.channelRouter)
    (whole : parseChunk (asRead (pubFrame x.client.tenantId channel text).payload) = none) :
    HandedOn x channel [text] ↔ 0 < relayCount x.client x.sub ⟨x.client.tenantId, subscribedName channel⟩ := by
  have key : (pubMessage x.client.tenantId channel text).key =
    ⟨x.client.tenantId, subscribedName channel⟩ := rfl
  have times := List.count_pos_iff.mpr published
  simp only [HandedOn, List.mem_singleton, exists_eq_left]
  rw [timesHanded_of_whole whole, x.countP_arrivals fresh, key]
  exact ⟨Nat.pos_of_mul_pos_right, fun relays => Nat.mul_pos relays times⟩

theorem relayed_own (x : Exchange η) {name : Utf16} {handlers : List η} (exact : Sdk.star ∉ name)
    (registered : x.client.subscriptions.get name = some handlers) :
    0 < relayCount x.client x.sub ⟨x.client.tenantId, subscribedName name⟩ := by
  have listed : name ∈ x.client.subscriptions.keys := by
    obtain ⟨before, after, entries, -⟩ := List.lookup_eq_some_iff.mp registered
    rw [Subscriptions.keys, entries]
    simp
  refine relayCount_pos listed ?_
  rw [sourceNamed, isPattern_subscribedName exact]
  exact decide_eq_true rfl

variable [DecidableEq η]

/-- The handler of a name is called for a publish exactly where the names are the same, just when a name that is
the same comes back as it was given and the text is completed, and one that is not the same is not what comes
back of the other where the text is completed. For a text in one frame that is when no relay of the session
matches the other. -/
theorem names_agree_iff (x : Exchange η) {rolls : List.Vector (Fin 36) 4} {maxMessageBytes : Nat}
    {name channel payload : Utf16} {chunks : List Utf16} {handlers : List η} {handler : η}
    (exact : Sdk.star ∉ name) (sent : encodeChunks rolls payload maxMessageBytes = .ok chunks)
    (fresh : ∀ chunk ∈ chunks, pubMessage x.client.tenantId channel chunk ∉ publications x.first.ctx.channelRouter)
    (published : ∀ chunk ∈ chunks,
      pubMessage x.client.tenantId channel chunk ∈ publications x.server.ctx.channelRouter)
    (registered : x.client.subscriptions.get name = some handlers) (member : handler ∈ handlers) :
    ((Called x name channel handler chunks ↔ name = channel) ↔
      (name = channel → Kept name ∧ HandedOn x channel chunks) ∧
      (name ≠ channel → name = asRead (subscribedName channel) → ¬ HandedOn x channel chunks)) ∧
    (utf8ByteLength payload ≤ lenPayload →
      parseChunk (asRead (pubFrame x.client.tenantId channel payload).payload) = none →
      ((Called x name channel handler chunks ↔ name = channel) ↔
        (name = channel → Kept name) ∧
        (name ≠ channel → name = asRead (subscribedName channel) →
          relayCount x.client x.sub ⟨x.client.tenantId, subscribedName channel⟩ = 0))) := by
  have called : Called x name channel handler chunks ↔
      name = asRead (subscribedName channel) ∧ HandedOn x channel chunks :=
    called_iff x chunks exact registered member
  have general : (Called x name channel handler chunks ↔ name = channel) ↔
      (name = channel → Kept name ∧ HandedOn x channel chunks) ∧
      (name ≠ channel → name = asRead (subscribedName channel) → ¬ HandedOn x channel chunks) := by
    rw [called]
    by_cases same : name = channel
    · subst same
      have kept := asRead_subscribedName_iff name
      rw [eq_comm (a := name), kept]
      simp
    · simp [same]
  refine ⟨general, fun short whole => ?_⟩
  have single : chunks = [payload] := by
    rw [encodeChunks, if_pos short] at sent
    exact (Except.ok.inj sent).symm
  subst single
  have handed := handedOn_iff x (fresh payload List.mem_cons_self) (published payload List.mem_cons_self) whole
  rw [general]
  by_cases same : name = channel
  · subst same
    have own := relayed_own x exact registered
    simp [handed, own]
  · simp [same, handed, Nat.pos_iff_ne_zero]

end

section Sample
open SampleToken Sample

theorem pubMessage_congr (tenantId : TenantId) {channel other : Utf16} (payload : Utf16)
    (alike : Sdk.writePadded lenChannel channel = Sdk.writePadded lenChannel other)
    (named : subscribedName channel = subscribedName other) :
    pubMessage tenantId channel payload = pubMessage tenantId other payload := by
  have bytes : (pubFrame tenantId channel payload).raw.toList = (pubFrame tenantId other payload).raw.toList := by
    have encoded := encodeFrame_eq { opcode := .publish, tenantId, channelId := channel, payload }
    have same := encodeFrame_eq { opcode := .publish, tenantId, channelId := other, payload }
    rw [encodeFrame, header, alike] at encoded
    exact encoded.symm.trans same
  have raw : (pubFrame tenantId channel payload).raw = (pubFrame tenantId other payload).raw :=
    Subtype.ext bytes
  rw [pubMessage, pubMessage, raw, named]

def nulName : Utf16 := ofString "room\x00"

theorem subscribedName_nulName : subscribedName nulName = "room" := by
  have fits : utf8ByteLength nulName ≤ lenChannel := by decide
  have trimmed : trimEndNul "room\x00" = "room" := by decide
  rw [subscribedName, cut_of_fits fits, nulName, toUsv_ofString, trimmed]

theorem nulName_ne : nulName ≠ starName := by decide

theorem pubMessage_nulName : pubMessage tenantOne nulName hello = helloMessage :=
  pubMessage_congr tenantOne hello (by decide) (subscribedName_nulName.trans subscribedName_roomName.symm)

def rolls : List.Vector (Fin 36) 4 := List.Vector.replicate 4 (Fin.last 35)

theorem encodeChunks_hello : encodeChunks rolls hello defaultMaxMessageBytes = .ok [hello] := by
  have short : utf8ByteLength hello ≤ lenPayload := by decide
  rw [encodeChunks, if_pos short]

theorem published_helloMessage : helloMessage ∈ publications heard.ctx.channelRouter := by
  rw [← List.count_pos_iff, once_helloMessage]
  exact Nat.one_pos

theorem names_agree_iff_twice :
    ((Called (twice roomName subscribedName_roomName roomName_ne) roomName roomName 0 [hello] ↔
        roomName = roomName) ↔
      (roomName = roomName →
        Kept roomName ∧ HandedOn (twice roomName subscribedName_roomName roomName_ne) roomName [hello]) ∧
      (roomName ≠ roomName → roomName = asRead (subscribedName roomName) →
        ¬ HandedOn (twice roomName subscribedName_roomName roomName_ne) roomName [hello])) ∧
    (utf8ByteLength hello ≤ lenPayload →
      parseChunk (asRead (pubFrame tenantOne roomName hello).payload) = none →
      ((Called (twice roomName subscribedName_roomName roomName_ne) roomName roomName 0 [hello] ↔
          roomName = roomName) ↔
        (roomName = roomName → Kept roomName) ∧
        (roomName ≠ roomName → roomName = asRead (subscribedName roomName) →
          relayCount (listening roomName) "a" ⟨tenantOne, subscribedName roomName⟩ = 0))) := by
  have fresh : ∀ chunk ∈ [hello], pubMessage tenantOne roomName chunk ∉
      publications watching.ctx.channelRouter := by
    intro chunk single
    rw [List.mem_singleton.mp single]
    exact fresh_helloMessage
  have published : ∀ chunk ∈ [hello], pubMessage tenantOne roomName chunk ∈
      publications heard.ctx.channelRouter := by
    intro chunk single
    rw [List.mem_singleton.mp single]
    exact published_helloMessage
  exact names_agree_iff (twice roomName subscribedName_roomName roomName_ne) (by decide) encodeChunks_hello fresh
    published (get_listening roomName_ne) List.mem_cons_self

theorem not_called_nulName :
    ¬ ∀ (x : Exchange Nat) (rolls : List.Vector (Fin 36) 4) (maxMessageBytes : Nat)
      (name channel payload : Utf16) (chunks : List Utf16) (handlers : List Nat) (handler : Nat),
      Sdk.star ∉ name → Sdk.star ∉ channel → encodeChunks rolls payload maxMessageBytes = .ok chunks →
        (∀ chunk ∈ chunks, pubMessage x.client.tenantId channel chunk ∉
          publications x.first.ctx.channelRouter) →
        (∀ chunk ∈ chunks, pubMessage x.client.tenantId channel chunk ∈
          publications x.server.ctx.channelRouter) →
        x.client.subscriptions.get name = some handlers → handler ∈ handlers →
        (Called x name channel handler chunks ↔ name = channel) := by
  intro claim
  have fresh : ∀ chunk ∈ [hello], pubMessage tenantOne nulName chunk ∉
      publications watching.ctx.channelRouter := by
    simpa [pubMessage_nulName] using fresh_helloMessage
  have published : ∀ chunk ∈ [hello], pubMessage tenantOne nulName chunk ∈
      publications heard.ctx.channelRouter := by
    simpa [pubMessage_nulName] using published_helloMessage
  have called := (claim (twice nulName subscribedName_nulName nulName_ne) rolls defaultMaxMessageBytes nulName
    nulName hello [hello] [0] 0 (by decide) (by decide) encodeChunks_hello fresh published
    (get_listening nulName_ne) List.mem_cons_self).mpr rfl
  have read := ((called_iff (twice nulName subscribedName_nulName nulName_ne) [hello] (by decide)
    (get_listening nulName_ne) List.mem_cons_self).mp called).1
  rw [subscribedName_nulName] at read
  exact absurd read (by decide)

end Sample

end RealtimePlatform.Proof.ChannelNames
