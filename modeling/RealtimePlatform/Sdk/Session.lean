import RealtimePlatform.Sdk.Client
import RealtimePlatform.Backend.Relays

/-!
# What the server makes of a client's subscriptions

The name that the server reads in the SUB of a key, what it subscribes by that name, and how the names
and patterns of the two sides, bytes of UTF-8 on one and units of UTF-16 on the other, agree.
-/

namespace RealtimePlatform.Sdk
open Library Utf16
open Backend (Opcode Frame TenantId Source Connection isPattern lenChannel unicastInboxChannel)

/-- The name under which the server subscribes a key. -/
def subscribedName (key : Utf16) : String := trimEndNul (cut lenChannel key)

/-- What a SUB of the name subscribes. -/
def sourceNamed (tenantId : TenantId) (name : String) : Source :=
  if isPattern name then .wildcard ⟨tenantId, name⟩ else .channel ⟨tenantId, name⟩

section
variable {η : Type*} [DecidableEq η]

/-- How often `dispatch` calls each handler of a key for a message on a channel. -/
def callsOf (key channelId : Utf16) : Nat :=
  (if key = channelId then 1 else 0) + (if star ∈ key ∧ globMatch key channelId then 1 else 0)

theorem countP_map_call (own key : Utf16) (handler : η) (message : RealtimeMessage)
    (handlers : List η) :
    (handlers.map fun h => (⟨own, h, message⟩ : Call η)).countP
        (fun call => call.key = key ∧ call.handler = handler) =
      if own = key then handlers.count handler else 0 := by
  rw [List.countP_map]
  by_cases same : own = key
  · rw [if_pos same, List.count]
    refine List.countP_congr fun h _ => ?_
    simp [same]
  · rw [if_neg same, List.countP_eq_zero]
    intro h _
    simp [same]

theorem countP_flatMap_call {entries : List (Utf16 × List η)} (distinct : (entries.map (·.1)).Nodup)
    (key : Utf16) (handler : η) (message : RealtimeMessage) (hit : Utf16 → Prop) [DecidablePred hit] :
    (entries.flatMap fun e => if hit e.1 then e.2.map fun h => (⟨e.1, h, message⟩ : Call η) else []).countP
        (fun call => call.key = key ∧ call.handler = handler) =
      if hit key then ((entries.lookup key).getD []).count handler else 0 := by
  induction entries with
  | nil => simp
  | cons e entries ih =>
      rw [List.map_cons, List.nodup_cons] at distinct
      have first : (if hit e.1 then e.2.map fun h => (⟨e.1, h, message⟩ : Call η) else []).countP
          (fun call => call.key = key ∧ call.handler = handler) =
            if hit key ∧ e.1 = key then e.2.count handler else 0 := by
        by_cases taken : hit e.1
        · rw [if_pos taken, countP_map_call]
          by_cases same : e.1 = key
          · rw [if_pos same, if_pos ⟨same ▸ taken, same⟩]
          · rw [if_neg same, if_neg fun both => same both.2]
        · have never : ¬ (hit key ∧ e.1 = key) := by
            rintro ⟨wanted, same⟩
            exact taken (same ▸ wanted)
          rw [if_neg taken, if_neg never]
          rfl
      rw [List.flatMap_cons, List.countP_append, first, ih distinct.2, List.lookup_cons]
      by_cases same : e.1 = key
      · subst same
        have absent : entries.lookup e.1 = none := by
          rw [List.lookup_eq_none_iff]
          intro other member
          refine bne_iff_ne.mpr fun equal => distinct.1 (List.mem_map.mpr ⟨other, member, equal.symm⟩)
        simp [absent]
      · have apart : (key == e.1) = false := beq_eq_false_iff_ne.mpr (Ne.symm same)
        simp [same, apart]

theorem countP_calls {s : Subscriptions η} {key : Utf16} {handlers : List η} {handler : η}
    (registered : s.get key = some handlers) (member : handler ∈ handlers)
    (message : RealtimeMessage) :
    (s.calls message).countP (fun call => call.key = key ∧ call.handler = handler) =
      callsOf key message.channelId := by
  have found : s.entries.lookup key = some handlers := registered
  have once : handlers.count handler = 1 := by
    obtain ⟨before, after, entries, _⟩ := List.lookup_eq_some_iff.mp found
    have kept := s.registered (key, handlers) (by rw [entries]; simp)
    exact List.count_eq_one_of_mem kept.2 member
  rw [Subscriptions.calls, List.countP_append, countP_map_call,
    countP_flatMap_call s.distinct key handler message fun own => star ∈ own ∧
      globMatch own message.channelId = true]
  rw [found, Option.getD_some, once, callsOf]
  congr 1
  by_cases same : key = message.channelId
  · rw [if_pos same.symm, if_pos same, ← same, found, Option.getD_some, once]
  · rw [if_neg (Ne.symm same), if_neg same]

end

section
variable {η : Type*} (client : RealtimeClient η) (arrival : RealtimeClient.Arrival)

theorem subscriptions_onmessage :
    (client.onmessage arrival).2.subscriptions = client.subscriptions := by
  unfold RealtimeClient.onmessage
  split
  · rfl
  · unfold RealtimeClient.dispatch
    dsimp only
    split <;> rfl

/-- The text that `dispatch` delivers for a frame, if any. -/
def delivered (frame : Frame) : Option Utf16 :=
  (assemble arrival.now arrival.seen (asRead frame.payload) client.reassembler).1

theorem calls_onmessage {frame : Frame} (own : arrival.raw = frame.raw.toList) :
    (client.onmessage arrival).1 = (delivered client arrival frame).elim [] fun payload =>
      client.subscriptions.calls
        ⟨asRead frame.channelId, payload, frame.tenantId, arrival.receivedAt⟩ := by
  unfold RealtimeClient.onmessage RealtimeClient.dispatch delivered
  rw [own, decodeFrame_raw]
  dsimp only
  cases (assemble arrival.now arrival.seen (asRead frame.payload) client.reassembler).1 <;> rfl

theorem countP_onmessage [DecidableEq η] {frame : Frame} (own : arrival.raw = frame.raw.toList) {key : Utf16}
    {handlers : List η} {handler : η} (registered : client.subscriptions.get key = some handlers)
    (member : handler ∈ handlers) :
    (client.onmessage arrival).1.countP (fun call => call.key = key ∧ call.handler = handler) =
      if (delivered client arrival frame).isSome then callsOf key (asRead frame.channelId) else 0 := by
  rw [calls_onmessage client arrival own]
  cases delivered client arrival frame with
  | none => rfl
  | some payload => exact countP_calls registered member _

end

theorem toList_toUsv (key : Utf16) : (toUsv key).toList = scalars key := String.toList_ofList

theorem cut_of_fits {key : Utf16} (fits : utf8ByteLength key ≤ lenChannel) :
    cut lenChannel key = toUsv key := by
  rw [utf8ByteLength_eq] at fits
  rw [cut, fitting_eq_self fits]
  rfl

theorem trimEndNul_of_plain {text : String} (plain : '\x00' ∉ text.toList) : trimEndNul text = text := by
  rw [trimEndNul_eq_self_iff]
  intro nonempty last
  exact plain (last ▸ List.getLast_mem nonempty)

theorem subscribedName_of_fits {key : Utf16} (fits : utf8ByteLength key ≤ lenChannel)
    (plain : 0 ∉ key) : subscribedName key = toUsv key := by
  rw [subscribedName, cut_of_fits fits]
  refine trimEndNul_of_plain fun nul => plain ?_
  rw [toList_toUsv] at nul
  exact zero_mem_of_scalars nul

theorem single_star : single star = '*' := by decide

theorem star_mem_iff (key : Utf16) : star ∈ key ↔ isPattern (toUsv key) = true := by
  have units : single star ∈ scalars key ↔ star ∈ key := mem_scalars_iff (by decide) (by decide)
  rw [isPattern, toList_toUsv, List.contains_iff_mem, ← units, single_star]

theorem isPattern_eq_false {key : Utf16} (exact : star ∉ key) : isPattern (toUsv key) = false := by
  rw [star_mem_iff] at exact
  exact Bool.eq_false_iff.mpr exact

theorem globHelper_eq (pattern candidate : List UInt8) :
    Backend.globHelper pattern candidate = glob 42 pattern candidate := by
  induction pattern generalizing candidate with
  | nil => rfl
  | cons p ps ih =>
      rw [Backend.globHelper.eq_def, glob.eq_def]
      simp only
      split
      · simp only [ih]
      · cases candidate with
        | nil => rfl
        | cons b cs => simp only [ih]

theorem globMatch_server (pattern candidate : String) :
    Backend.globMatch pattern candidate = glob '*' pattern.toList candidate.toList := by
  have encoded : ∀ text : String, utf8 text = text.toList.flatMap String.utf8EncodeChar := by
    intro text
    rw [← utf8_ofList, String.ofList_toList]
  have only : ∀ c, (42 : UInt8) ∈ String.utf8EncodeChar c → c = '*' := fun c member =>
    Char.toNat_inj.mp (TextDecoder.toNat_of_mem_encode (by decide) member)
  rw [Backend.globMatch, globHelper_eq, encoded, encoded]
  exact TextDecoder.selfSynchronizing_utf8EncodeChar.glob_flatMap (by decide) only _ _

theorem globMatch_client (pattern candidate : String) :
    globMatch (ofString pattern) (ofString candidate) =
      glob '*' pattern.toList candidate.toList := by
  have only : ∀ c, star ∈ encodeChar c → c = '*' := fun c member =>
    (eq_single_of_mem_encodeChar (by decide) member).trans single_star
  exact selfSynchronizing_encodeChar.glob_flatMap (by decide) only _ _

theorem globMatch_eq (pattern candidate : String) :
    globMatch (ofString pattern) (ofString candidate) = Backend.globMatch pattern candidate := by
  rw [globMatch_client, globMatch_server]

end RealtimePlatform.Sdk
