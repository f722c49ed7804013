import RealtimePlatform.Library.Transition
import RealtimePlatform.Proof.RustCodec
import RealtimePlatform.Sdk.RustReceivers
import RealtimePlatform.Proof.PatternMatching

namespace RealtimePlatform.Proof.RustReceivers
open Library Sdk.Rust Sdk.Rust.Receivers

structure Sound (hub : Receivers) : Prop where
  made : ∀ name bus, hub.channels.lookup name = some bus → bus < hub.next
  single : ∀ name name' bus, hub.channels.lookup name = some bus → hub.channels.lookup name' = some bus →
    name = name'
  held : ∀ call bus, hub.calls call = some (.holding bus) ∨ hub.calls call = some (.attached bus) → bus < hub.next

structure Retired (hub : Receivers) (bus : Nat) : Prop where
  made : bus < hub.next
  nameless : ∀ name, hub.channels.lookup name ≠ some bus

section
variable {hub : Receivers} {bus r : Nat}

theorem sent_sendTo (other : Nat) (message : RealtimeMessage) (hub : Receivers) (bus r : Nat) :
    ((hub.sendTo other message).buses bus).sent r =
      if other = bus then ((hub.buses bus).sent r).map (· ++ [message]) else (hub.buses bus).sent r := by
  show (Function.update hub.buses other ((hub.buses other).send message).2 bus).sent r = _
  by_cases same : other = bus
  · rw [if_pos same, same, Function.update_self, Bus.sent_send]
  · rw [if_neg same, Function.update_of_ne (Ne.symm same)]

def sweep (shards : Shards) (frame : DecodedFrame) (shard : Nat) (hub : Receivers)
    (entries : List (Sigma fun _ : String => Nat)) : Receivers :=
  entries.foldl (fun (hub : Receivers) entry =>
    if shards.of entry.1 = shard && (isPattern entry.1 && globMatch entry.1 frame.channelId) then
      hub.sendTo entry.2 (messageOf frame)
    else hub) hub

def hits (shards : Shards) (frame : DecodedFrame) (shard bus : Nat) (entry : Sigma fun _ : String => Nat) : Bool :=
  entry.2 = bus && (shards.of entry.1 = shard && (isPattern entry.1 && globMatch entry.1 frame.channelId))

theorem sweep_same (shards : Shards) (frame : DecodedFrame) (shard : Nat) (hub : Receivers)
    (entries : List (Sigma fun _ : String => Nat)) :
    (sweep shards frame shard hub entries).channels = hub.channels ∧
      (sweep shards frame shard hub entries).next = hub.next ∧
      (sweep shards frame shard hub entries).calls = hub.calls := by
  induction entries generalizing hub with
  | nil => exact ⟨rfl, rfl, rfl⟩
  | cons entry entries ih =>
      have rest := ih (if shards.of entry.1 = shard && (isPattern entry.1 && globMatch entry.1 frame.channelId) then
        hub.sendTo entry.2 (messageOf frame) else hub)
      rw [sweep, List.foldl_cons]
      refine rest.imp (Eq.trans · ?_) (And.imp (Eq.trans · ?_) (Eq.trans · ?_)) <;> split <;> rfl

theorem sent_sweep (shards : Shards) (frame : DecodedFrame) (shard : Nat) (hub : Receivers)
    (entries : List (Sigma fun _ : String => Nat)) (bus r : Nat) :
    ((sweep shards frame shard hub entries).buses bus).sent r = ((hub.buses bus).sent r).map
      (· ++ List.replicate (entries.countP (hits shards frame shard bus)) (messageOf frame)) := by
  induction entries generalizing hub with
  | nil => simp [sweep]
  | cons entry entries ih =>
      rw [sweep, List.foldl_cons]
      refine (ih _).trans ?_
      rw [List.countP_cons]
      cases matching : decide (shards.of entry.1 = shard) &&
          (isPattern entry.1 && globMatch entry.1 frame.channelId) with
      | false => simp [hits, matching]
      | true =>
          rw [if_pos rfl, sent_sendTo]
          by_cases same : entry.2 = bus
          · rw [if_pos same, if_pos (by simp [hits, matching, same]), Option.map_map]
            congr 1
            funext log
            simp [List.replicate_succ]
          · simp [hits, same]

theorem countP_hits (shards : Shards) (sound : Sound hub) {name : String}
    (current : hub.channels.lookup name = some bus) (frame : DecodedFrame) (shard : Nat) :
    hub.channels.entries.countP (hits shards frame shard bus) =
      if shards.of name = shard && (isPattern name && globMatch name frame.channelId) then 1 else 0 := by
  have member : (⟨name, bus⟩ : Sigma fun _ : String => Nat) ∈ hub.channels.entries := AList.mem_lookup_iff.mp current
  have nodup : hub.channels.entries.Nodup := hub.channels.nodupKeys.nodup
  have only : ∀ entry ∈ hub.channels.entries, hits shards frame shard bus entry =
      (entry == ⟨name, bus⟩ &&
        (shards.of name = shard && (isPattern name && globMatch name frame.channelId))) := by
    rintro ⟨name', bus'⟩ inside
    by_cases same : bus' = bus
    · subst same
      obtain rfl := sound.single name' name bus' (AList.mem_lookup_iff.mpr inside) current
      simp [hits]
    · simp [hits, same]
  rw [List.countP_congr fun entry inside => by rw [only entry inside]]
  cases decide (shards.of name = shard) && (isPattern name && globMatch name frame.channelId) with
  | false => simp
  | true =>
      simp only [Bool.and_true, if_true]
      exact List.count_eq_one_of_mem nodup member

theorem countP_hits_retired (shards : Shards) (retired : Retired hub bus) (frame : DecodedFrame) (shard : Nat) :
    hub.channels.entries.countP (hits shards frame shard bus) = 0 := by
  rw [List.countP_eq_zero]
  rintro ⟨name, bus'⟩ inside hit
  have same : bus' = bus := by
    simp only [hits, Bool.and_eq_true, decide_eq_true_eq] at hit
    exact hit.1
  exact retired.nameless name (AList.mem_lookup_iff.mpr (same ▸ inside))

end

section
variable {shards : Shards} {hub hub' : Receivers} {name : String} {bus call : Nat} {e : ReceiverEvent}

theorem sendNamed_same (frame : DecodedFrame) (hub : Receivers) : (hub.sendNamed frame).channels = hub.channels ∧
    (hub.sendNamed frame).next = hub.next ∧ (hub.sendNamed frame).calls = hub.calls := by
  unfold sendNamed
  split <;> exact ⟨rfl, rfl, rfl⟩

theorem sendMatching_same (shards : Shards) (frame : DecodedFrame) (shard : Nat) (hub : Receivers) :
    (hub.sendMatching shards frame shard).channels = hub.channels ∧
      (hub.sendMatching shards frame shard).next = hub.next ∧
      (hub.sendMatching shards frame shard).calls = hub.calls :=
  sweep_same shards frame shard hub hub.channels.entries

theorem sent_sendNamed (sound : Sound hub) (current : hub.channels.lookup name = some bus) (frame : DecodedFrame)
    (r : Nat) : ((hub.sendNamed frame).buses bus).sent r =
      ((hub.buses bus).sent r).map (· ++ byName name frame) := by
  unfold sendNamed byName
  by_cases same : frame.channelId = name
  · rw [same, current, if_pos rfl]
    simp only
    rw [sent_sendTo, if_pos rfl]
  · rw [if_neg same]
    cases found : hub.channels.lookup frame.channelId with
    | none => simp
    | some other =>
        have apart : other ≠ bus := by
          rintro rfl
          exact same (sound.single _ _ _ found current)
        simp only
        rw [sent_sendTo, if_neg apart]
        simp

theorem sent_sendMatching (sound : Sound hub) (current : hub.channels.lookup name = some bus)
    (frame : DecodedFrame) (shard r : Nat) : ((hub.sendMatching shards frame shard).buses bus).sent r =
      ((hub.buses bus).sent r).map (· ++ if shards.of name = shard then byPattern name frame else []) := by
  refine (sent_sweep shards frame shard hub hub.channels.entries bus r).trans ?_
  rw [countP_hits shards sound current frame shard, byPattern]
  by_cases own : shards.of name = shard
  · simp only [own, decide_true, Bool.true_and, if_true]
    split <;> rfl
  · simp [own]

theorem sent_sendNamed_retired (retired : Retired hub bus) (frame : DecodedFrame) (r : Nat) :
    ((hub.sendNamed frame).buses bus).sent r = (hub.buses bus).sent r := by
  unfold sendNamed
  cases found : hub.channels.lookup frame.channelId with
  | none => rfl
  | some other =>
      have apart : other ≠ bus := by
        rintro rfl
        exact retired.nameless _ found
      simp only
      rw [sent_sendTo, if_neg apart]

theorem sent_sendMatching_retired (retired : Retired hub bus) (frame : DecodedFrame) (shard r : Nat) :
    ((hub.sendMatching shards frame shard).buses bus).sent r = (hub.buses bus).sent r := by
  refine (sent_sweep shards frame shard hub hub.channels.entries bus r).trans ?_
  rw [countP_hits_retired shards retired]
  simp

theorem entry_spec (sound : Sound hub) (name : String) :
    Sound (hub.entry name).2 ∧ (hub.entry name).2.channels.lookup name = some (hub.entry name).1 ∧
      (hub.entry name).2.buses = hub.buses ∧ (hub.entry name).2.calls = hub.calls ∧
      hub.next ≤ (hub.entry name).2.next ∧
      ∀ other ≠ name, (hub.entry name).2.channels.lookup other = hub.channels.lookup other := by
  unfold entry
  cases found : hub.channels.lookup name with
  | some bus => exact ⟨sound, found, rfl, rfl, Nat.le_refl _, fun _ _ => rfl⟩
  | none =>
      have lookup (other : String) : (hub.channels.insert name hub.next).lookup other =
          if other = name then some hub.next else hub.channels.lookup other := by
        by_cases same : other = name
        · rw [if_pos same, same, AList.lookup_insert]
        · rw [if_neg same, AList.lookup_insert_ne same]
      refine ⟨⟨?_, ?_, ?_⟩, ?_, rfl, rfl, Nat.le_succ _, ?_⟩
      · intro other bus there
        rw [lookup] at there
        split at there
        · cases there
          exact Nat.lt_succ_self _
        · exact Nat.lt_succ_of_lt (sound.made _ _ there)
      · intro one two bus there there'
        rw [lookup] at there there'
        split at there
        · rename_i same
          split at there'
          · rename_i same'
            exact same.trans same'.symm
          · cases there
            exact absurd (sound.made _ _ there') (Nat.lt_irrefl _)
        · split at there'
          · cases there'
            exact absurd (sound.made _ _ there) (Nat.lt_irrefl _)
          · exact sound.single _ _ _ there there'
      · intro call bus holds
        exact Nat.lt_succ_of_lt (sound.held call bus holds)
      · exact (lookup name).trans (if_pos rfl)
      · intro other apart
        exact (lookup other).trans (if_neg apart)

inductive Moved (shards : Shards) (hub : Receivers) : ReceiverEvent → Receivers → Prop where
  | entered {call : Nat} {name : String} (fresh : hub.calls call = none) : Moved shards hub (.enter call name)
      { (hub.entry name).2 with
        calls := Function.update (hub.entry name).2.calls call (some (.holding (hub.entry name).1)) }
  | attached {call bus : Nat} (holding : hub.calls call = some (.holding bus)) : Moved shards hub (.attach call)
      { hub with
        buses := Function.update hub.buses bus ((hub.buses bus).subscribe call)
        calls := Function.update hub.calls call (some (.attached bus)) }
  | removed {name : String} :
      Moved shards hub (.unsubscribe name) { hub with channels := hub.channels.erase name }
  | named {bytes : List UInt8} {frame : DecodedFrame} (idle : hub.dispatching = none)
      (decoded : decodeFrame bytes = .ok frame) :
      Moved shards hub (.incoming bytes) { hub.sendNamed frame with dispatching := some (frame, 0) }
  | refused {bytes : List UInt8} {err : ProtocolError} (idle : hub.dispatching = none)
      (decoded : decodeFrame bytes = .error err) : Moved shards hub (.incoming bytes) hub
  | visited {frame : DecodedFrame} {shard : Nat} (dispatching : hub.dispatching = some (frame, shard)) :
      Moved shards hub (.visit frame shard)
        { hub.sendMatching shards frame shard with dispatching := nextShard shards frame shard }

theorem step_moved (taken : hub.step shards e = some hub') : Moved shards hub e hub' := by
  cases e with
  | enter call name =>
      rw [Receivers.step] at taken
      cases asked : hub.calls call with
      | some _ => simp [asked] at taken
      | none =>
          simp only [asked, Option.some.injEq] at taken
          exact taken ▸ .entered asked
  | attach call =>
      rw [Receivers.step] at taken
      split at taken
      · rename_i bus holding
        cases taken
        exact .attached holding
      · cases taken
  | unsubscribe name =>
      cases taken
      exact .removed
  | incoming bytes =>
      rw [Receivers.step] at taken
      cases dispatching : hub.dispatching with
      | some _ =>
          rw [dispatching, Option.isSome_some, if_pos rfl] at taken
          cases taken
      | none =>
          rw [dispatching, Option.isSome_none, if_neg Bool.false_ne_true] at taken
          cases decoded : decodeFrame bytes with
          | error err =>
              simp only [decoded, Option.some.injEq] at taken
              exact taken ▸ .refused dispatching decoded
          | ok frame =>
              simp only [decoded, Option.some.injEq] at taken
              exact taken ▸ .named dispatching decoded
  | visit frame shard =>
      rw [Receivers.step] at taken
      split at taken
      · rename_i dispatching
        cases taken
        exact .visited dispatching
      · cases taken

theorem Sound.of_same (sound : Sound hub) (channels : hub'.channels = hub.channels) (next : hub'.next = hub.next)
    (calls : hub'.calls = hub.calls) : Sound hub' := by
  constructor
  · rw [channels, next]
    exact sound.made
  · rw [channels]
    exact sound.single
  · rw [calls, next]
    exact sound.held

theorem sound_step (sound : Sound hub) (taken : hub.step shards e = some hub') : Sound hub' := by
  cases step_moved taken with
  | entered fresh =>
      rename_i call name
      obtain ⟨sound', current, _, _, _, _⟩ := entry_spec sound name
      refine ⟨sound'.made, sound'.single, ?_⟩
      intro other bus holds
      simp only [Function.update_apply] at holds
      split at holds
      · simp only [Option.some.injEq, Subscribing.holding.injEq, reduceCtorEq, or_false] at holds
        exact holds ▸ sound'.made _ _ current
      · exact sound'.held other bus holds
  | attached holding =>
      rename_i call bus
      refine ⟨sound.made, sound.single, ?_⟩
      intro other bus' holds
      simp only [Function.update_apply] at holds
      split at holds
      · simp only [Option.some.injEq, reduceCtorEq, Subscribing.attached.injEq, false_or] at holds
        exact holds ▸ sound.held call bus (Or.inl holding)
      · exact sound.held other bus' holds
  | removed =>
      rename_i name
      have kept (other : String) (bus : Nat) (there : (hub.channels.erase name).lookup other = some bus) :
          hub.channels.lookup other = some bus := (Table.lookup_of_lookup_erase there).2
      exact ⟨fun other bus there => sound.made _ _ (kept other bus there),
        fun one two bus there there' => sound.single _ _ _ (kept one bus there) (kept two bus there'), sound.held⟩
  | named =>
      rename_i frame _ _
      obtain ⟨channels, next, calls⟩ := sendNamed_same frame hub
      exact sound.of_same channels next calls
  | refused => exact sound
  | visited =>
      rename_i frame shard _
      obtain ⟨channels, next, calls⟩ := sendMatching_same shards frame shard hub
      exact sound.of_same channels next calls

theorem current_step (sound : Sound hub) (current : hub.channels.lookup name = some bus)
    (taken : hub.step shards e = some hub') :
    if e = .unsubscribe name then Retired hub' bus else hub'.channels.lookup name = some bus := by
  cases step_moved taken with
  | entered =>
      rename_i call other _
      rw [if_neg (by simp)]
      obtain ⟨_, own, _, _, _, others⟩ := entry_spec sound other
      by_cases same : name = other
      · subst same
        have first : (hub.entry name).1 = bus := by simp [entry, current]
        exact own.trans (congrArg some first)
      · exact (others name same).trans current
  | attached =>
      rw [if_neg (by simp)]
      exact current
  | removed =>
      rename_i other
      by_cases same : other = name
      · subst same
        rw [if_pos rfl]
        refine ⟨sound.made _ _ current, ?_⟩
        intro another there
        obtain ⟨apart, before⟩ := Table.lookup_of_lookup_erase there
        exact apart (sound.single _ _ _ before current)
      · rw [if_neg (by simpa using same)]
        exact (AList.lookup_erase_ne (Ne.symm same)).trans current
  | named =>
      rename_i frame _ _
      rw [if_neg (by simp)]
      exact (congrArg (AList.lookup name) (sendNamed_same frame hub).1).trans current
  | refused =>
      rw [if_neg (by simp)]
      exact current
  | visited =>
      rename_i frame shard _
      rw [if_neg (by simp)]
      exact (congrArg (AList.lookup name) (sendMatching_same shards frame shard hub).1).trans current

theorem Retired.of_same (retired : Retired hub bus) (channels : hub'.channels = hub.channels)
    (next : hub'.next = hub.next) : Retired hub' bus := by
  constructor
  · rw [next]
    exact retired.made
  · rw [channels]
    exact retired.nameless

theorem retired_step (sound : Sound hub) (retired : Retired hub bus) (taken : hub.step shards e = some hub') :
    Retired hub' bus := by
  cases step_moved taken with
  | entered =>
      rename_i call other _
      obtain ⟨sound', own, _, _, later, others⟩ := entry_spec sound other
      refine ⟨Nat.lt_of_lt_of_le retired.made later, ?_⟩
      intro name there
      by_cases same : name = other
      · subst same
        cases found : hub.channels.lookup name with
        | some _ =>
            simp only [entry, found] at there
            exact retired.nameless name (found.trans there)
        | none =>
            simp only [entry, found, AList.lookup_insert, Option.some.injEq] at there
            exact Nat.ne_of_gt retired.made there
      · exact retired.nameless name ((others name same).symm.trans there)
  | attached => exact ⟨retired.made, retired.nameless⟩
  | removed => exact ⟨retired.made, fun name there => retired.nameless name (Table.lookup_of_lookup_erase there).2⟩
  | named =>
      rename_i frame _ _
      obtain ⟨channels, next, _⟩ := sendNamed_same frame hub
      exact retired.of_same channels next
  | refused => exact retired
  | visited =>
      rename_i frame shard _
      obtain ⟨channels, next, _⟩ := sendMatching_same shards frame shard hub
      exact retired.of_same channels next

def Attached (hub : Receivers) (call bus : Nat) (log : List RealtimeMessage) : Prop :=
  hub.calls call = some (.attached bus) ∧ (hub.buses bus).sent call = some log

theorem attached_quiet {log : List RealtimeMessage} (own : Attached hub call bus log)
    (quiet : ∀ bytes, e ≠ .incoming bytes) (unseen : ∀ frame shard, e ≠ .visit frame shard) (taken : hub.step shards e = some hub') : Attached hub' call bus log := by
  obtain ⟨attached, sent⟩ := own
  cases step_moved taken with
  | entered fresh =>
      rename_i other name
      have apart : call ≠ other := by
        rintro rfl
        rw [attached] at fresh
        cases fresh
      have same : (hub.entry name).2.buses = hub.buses ∧ (hub.entry name).2.calls = hub.calls := by
        unfold entry
        split <;> exact ⟨rfl, rfl⟩
      constructor
      · simp only [Function.update_of_ne apart, same.2, attached]
      · simp only [same.1, sent]
  | attached holding =>
      rename_i other bus'
      have apart : call ≠ other := by
        rintro rfl
        rw [attached] at holding
        cases holding
      refine ⟨(Function.update_of_ne apart _ _).trans attached, ?_⟩
      simp only [Function.update_apply]
      split
      · rename_i same
        subst same
        exact (Bus.sent_subscribe_ne _ apart).trans sent
      · exact sent
  | removed => exact ⟨attached, sent⟩
  | named => exact absurd rfl (quiet _)
  | refused => exact absurd rfl (quiet _)
  | visited => exact absurd rfl (unseen _ _)

theorem attached_current {log : List RealtimeMessage} (sound : Sound hub)
    (current : hub.channels.lookup name = some bus) (own : Attached hub call bus log)
    (taken : hub.step shards e = some hub') : Attached hub' call bus (log ++ e.delivered shards name) := by
  cases e with
  | incoming bytes =>
      rw [ReceiverEvent.delivered]
      cases step_moved taken with
      | named _ decoded =>
          rename_i frame _
          simp only [decoded]
          constructor
          · exact (congrFun (sendNamed_same frame hub).2.2 call).trans own.1
          · exact (sent_sendNamed sound current frame call).trans (by rw [own.2]; rfl)
      | refused _ decoded =>
          simp only [decoded, List.append_nil]
          exact own
  | visit frame shard =>
      cases step_moved taken with
      | visited =>
          constructor
          · exact (congrFun (sendMatching_same shards frame shard hub).2.2 call).trans own.1
          · exact (sent_sendMatching sound current frame shard call).trans (by rw [own.2]; rfl)
  | enter other name' =>
      rw [ReceiverEvent.delivered, List.append_nil]
      · exact attached_quiet own (by simp) (by simp) taken
      all_goals simp
  | attach other =>
      rw [ReceiverEvent.delivered, List.append_nil]
      · exact attached_quiet own (by simp) (by simp) taken
      all_goals simp
  | unsubscribe name' =>
      rw [ReceiverEvent.delivered, List.append_nil]
      · exact attached_quiet own (by simp) (by simp) taken
      all_goals simp

theorem attached_retired {log : List RealtimeMessage} (retired : Retired hub bus)
    (own : Attached hub call bus log) (taken : hub.step shards e = some hub') : Attached hub' call bus log := by
  cases e with
  | incoming bytes =>
      cases step_moved taken with
      | named =>
          rename_i frame _ _
          constructor
          · exact (congrFun (sendNamed_same frame hub).2.2 call).trans own.1
          · exact (sent_sendNamed_retired retired frame call).trans own.2
      | refused => exact own
  | visit frame shard =>
      cases step_moved taken with
      | visited =>
          constructor
          · exact (congrFun (sendMatching_same shards frame shard hub).2.2 call).trans own.1
          · exact (sent_sendMatching_retired retired frame shard call).trans own.2
  | _ => exact attached_quiet own (by simp) (by simp) taken

theorem holding_step (holding : hub.calls call = some (.holding bus)) (taken : hub.step shards e = some hub')
    (waits : e ≠ .attach call) : hub'.calls call = some (.holding bus) := by
  cases step_moved taken with
  | entered fresh =>
      rename_i other name
      have apart : call ≠ other := by
        rintro rfl
        rw [holding] at fresh
        cases fresh
      have same : (hub.entry name).2.calls = hub.calls := by
        unfold entry
        split <;> rfl
      simp only [Function.update_of_ne apart, same, holding]
  | attached =>
      rename_i other bus' _
      have apart : call ≠ other := by
        rintro rfl
        exact waits rfl
      exact (Function.update_of_ne apart _ _).trans holding
  | removed => exact holding
  | named =>
      rename_i frame _ _
      exact (congrFun (sendNamed_same frame hub).2.2 call).trans holding
  | refused => exact holding
  | visited =>
      rename_i frame shard _
      exact (congrFun (sendMatching_same shards frame shard hub).2.2 call).trans holding

theorem attached_calls_step (own : hub.calls call = some (.attached bus)) (taken : hub.step shards e = some hub') :
    hub'.calls call = some (.attached bus) := by
  cases step_moved taken with
  | entered fresh =>
      rename_i other name
      have apart : call ≠ other := by
        rintro rfl
        rw [own] at fresh
        cases fresh
      have same : (hub.entry name).2.calls = hub.calls := by
        unfold entry
        split <;> rfl
      simp only [Function.update_of_ne apart, same, own]
  | attached holding =>
      rename_i other bus'
      have apart : call ≠ other := by
        rintro rfl
        rw [own] at holding
        cases holding
      exact (Function.update_of_ne apart _ _).trans own
  | removed => exact own
  | named =>
      rename_i frame _ _
      exact (congrFun (sendNamed_same frame hub).2.2 call).trans own
  | refused => exact own
  | visited =>
      rename_i frame shard _
      exact (congrFun (sendMatching_same shards frame shard hub).2.2 call).trans own

end

section
variable {shards : Shards} {hub hub' : Receivers} {name : String} {bus call : Nat} {es : List ReceiverEvent}
  {log : List RealtimeMessage}

abbrev runs (shards : Shards) : Receivers → List ReceiverEvent → Option Receivers := Step.run (Receivers.step shards)

theorem sound_run (sound : Sound hub) (reached : runs shards hub es = some hub') : Sound hub' :=
  Step.run_invariant (fun _ _ _ sound taken => sound_step sound taken) reached sound

theorem retired_run (sound : Sound hub) (retired : Retired hub bus) (reached : runs shards hub es = some hub') :
    Retired hub' bus := by
  have both : Sound hub' ∧ Retired hub' bus :=
    Step.run_invariant (I := fun hub => Sound hub ∧ Retired hub bus)
      (fun _ _ _ both taken => ⟨sound_step both.1 taken, retired_step both.1 both.2 taken⟩) reached ⟨sound, retired⟩
  exact both.2

theorem current_run (sound : Sound hub) (current : hub.channels.lookup name = some bus)
    (reached : runs shards hub es = some hub') :
    if .unsubscribe name ∈ es then Retired hub' bus else hub'.channels.lookup name = some bus := by
  induction es generalizing hub with
  | nil =>
      rw [if_neg List.not_mem_nil]
      exact Option.some.inj reached ▸ current
  | cons e es ih =>
      obtain ⟨next, taken, rest⟩ := Step.run_cons_iff.mp reached
      have status := current_step sound current taken
      have sound' := sound_step sound taken
      by_cases removes : e = .unsubscribe name
      · rw [if_pos removes] at status
        rw [if_pos (removes ▸ List.mem_cons_self)]
        exact retired_run sound' status rest
      · rw [if_neg removes] at status
        have same : .unsubscribe name ∈ e :: es ↔ .unsubscribe name ∈ es := by
          rw [List.mem_cons, or_iff_right (Ne.symm removes)]
        simp only [same]
        exact ih sound' status rest

theorem log_run_retired (sound : Sound hub) (retired : Retired hub bus) (own : Attached hub call bus log)
    (reached : runs shards hub es = some hub') : Attached hub' call bus log := by
  have all : Sound hub' ∧ Retired hub' bus ∧ Attached hub' call bus log :=
    Step.run_invariant (I := fun hub => Sound hub ∧ Retired hub bus ∧ Attached hub call bus log)
      (fun _ _ _ all taken => ⟨sound_step all.1 taken, retired_step all.1 all.2.1 taken,
        attached_retired all.2.1 all.2.2 taken⟩) reached ⟨sound, retired, own⟩
  exact all.2.2

theorem log_run_current (sound : Sound hub) (current : hub.channels.lookup name = some bus)
    (own : Attached hub call bus log) (reached : runs shards hub es = some hub') : Attached hub' call bus
      (log ++ (es.takeWhile (· ≠ .unsubscribe name)).flatMap (·.delivered shards name)) := by
  induction es generalizing hub log with
  | nil =>
      rw [List.takeWhile_nil, List.flatMap_nil, List.append_nil]
      exact Option.some.inj reached ▸ own
  | cons e es ih =>
      obtain ⟨next, taken, rest⟩ := Step.run_cons_iff.mp reached
      have status := current_step sound current taken
      have sound' := sound_step sound taken
      have own' := attached_current sound current own taken
      by_cases removes : e = .unsubscribe name
      · rw [if_pos removes] at status
        subst removes
        rw [ReceiverEvent.delivered, List.append_nil] at own'
        · rw [List.takeWhile_cons_of_neg (by simp), List.flatMap_nil, List.append_nil]
          exact log_run_retired sound' status own' rest
        all_goals simp
      · rw [if_neg removes] at status
        rw [List.takeWhile_cons_of_pos (by simpa using removes), List.flatMap_cons, ← List.append_assoc]
        exact ih sound' status own' rest

theorem holding_run (holding : hub.calls call = some (.holding bus)) (reached : runs shards hub es = some hub')
    (waits : ∃ bus', hub'.calls call = some (.holding bus')) : hub'.calls call = some (.holding bus) := by
  obtain ⟨bus', waits⟩ := waits
  have either : hub'.calls call = some (.holding bus) ∨ ∃ bus', hub'.calls call = some (.attached bus') := by
    refine Step.run_invariant (I := fun hub => hub.calls call = some (.holding bus) ∨
      ∃ bus', hub.calls call = some (.attached bus')) ?_ reached (Or.inl holding)
    intro hub e hub' before taken
    rcases before with holding | ⟨bus', own⟩
    · by_cases last : e = .attach call
      · subst last
        cases step_moved taken with
        | attached => exact Or.inr ⟨_, Function.update_self _ _ _⟩
      · exact Or.inl (holding_step holding taken last)
    · exact Or.inr ⟨bus', attached_calls_step own taken⟩
  rcases either with same | ⟨_, own⟩
  · exact same
  · rw [own] at waits
    cases waits

theorem sound_empty : Sound {} where
  made name bus there := by cases there
  single name name' bus there := by cases there
  held call bus holds := by simp at holds

/-- What is owed when a run begins and is due of the buffers that arrive in it is delivered or still owed. -/
theorem owed_step (name : String) (taken : hub.step shards e = some hub') :
    owed shards name hub ++ e.due name = e.delivered shards name ++ owed shards name hub' := by
  cases step_moved taken with
  | named idle decoded =>
      simp only [owed, idle, List.nil_append, ReceiverEvent.due, due, ReceiverEvent.delivered, decoded]
      rw [if_pos (Nat.zero_le _)]
  | refused idle decoded => simp [owed, idle, ReceiverEvent.due, due, ReceiverEvent.delivered, decoded]
  | visited dispatching =>
      rename_i frame shard
      have small := shards.of_lt name
      simp only [owed, dispatching, ReceiverEvent.due, ReceiverEvent.delivered, List.append_nil, nextShard]
      rcases Nat.lt_trichotomy (shards.of name) shard with past | own | coming
      · rw [if_neg (by omega), if_neg (by omega), List.nil_append]
        split
        · rename_i frame' shard' next
          split at next
          · cases next
            rw [if_neg (by omega)]
          · cases next
        · rfl
      · rw [if_pos (by omega), if_pos own]
        split
        · rename_i frame' shard' next
          split at next
          · cases next
            rw [if_neg (by omega), List.append_nil]
          · cases next
        · rw [List.append_nil]
      · rw [if_pos (by omega), if_neg (by omega), if_pos (show shard + 1 < shards.count by omega)]
        exact (if_pos (show shard + 1 ≤ shards.of name by omega)).symm
  | entered =>
      rename_i call other _
      have same : (hub.entry other).2.dispatching = hub.dispatching := by
        unfold entry
        split <;> rfl
      simp [owed, same, ReceiverEvent.due, ReceiverEvent.delivered]
  | attached => simp [owed, ReceiverEvent.due, ReceiverEvent.delivered]
  | removed => simp [owed, ReceiverEvent.due, ReceiverEvent.delivered]

theorem owed_run (name : String) (reached : runs shards hub es = some hub') :
    owed shards name hub ++ es.flatMap (·.due name) =
      es.flatMap (·.delivered shards name) ++ owed shards name hub' := by
  induction es generalizing hub with
  | nil =>
      rw [Option.some.inj reached]
      simp
  | cons e es ih =>
      obtain ⟨next, taken, rest⟩ := Step.run_cons_iff.mp reached
      rw [List.flatMap_cons, List.flatMap_cons, ← List.append_assoc, owed_step name taken, List.append_assoc,
        ih rest, List.append_assoc]

theorem log_of_run {pre mid post : List ReceiverEvent}
    (reached : runs shards {} (pre ++ .enter call name :: (mid ++ .attach call :: post)) = some hub) : hub.log call =
      some (if .unsubscribe name ∈ mid then []
        else (post.takeWhile (· ≠ .unsubscribe name)).flatMap (·.delivered shards name)) := by
  obtain ⟨before, early, rest⟩ := Step.run_append_iff.mp reached
  obtain ⟨entered, taken, rest⟩ := Step.run_cons_iff.mp rest
  obtain ⟨waiting, middle, rest⟩ := Step.run_append_iff.mp rest
  obtain ⟨listening, attaches, late⟩ := Step.run_cons_iff.mp rest
  have sound := sound_run sound_empty early
  have soundEntered := sound_step sound taken
  have soundWaiting := sound_run soundEntered middle
  obtain ⟨bus, holding, current⟩ : ∃ bus, entered.calls call = some (.holding bus) ∧
      entered.channels.lookup name = some bus := by
    cases step_moved taken with
    | entered => exact ⟨_, Function.update_self _ _ _, (entry_spec sound name).2.1⟩
  have status := current_run soundEntered current middle
  have soundListening := sound_step soundWaiting attaches
  have own : Attached listening call bus [] ∧ listening.channels = waiting.channels ∧
      listening.next = waiting.next := by
    cases step_moved attaches with
    | attached holds =>
        rename_i bus'
        have same := holding_run holding middle ⟨bus', holds⟩
        rw [holds] at same
        cases same
        exact ⟨⟨Function.update_self _ _ _, by simp⟩, rfl, rfl⟩
  obtain ⟨own, channels, next⟩ := own
  have logged {log : List RealtimeMessage} (last : Attached hub call bus log) : hub.log call = some log := by
    rw [Receivers.log, last.1]
    exact last.2
  by_cases removed : .unsubscribe name ∈ mid
  · rw [if_pos removed] at status ⊢
    have retired : Retired listening bus := by
      constructor
      · rw [next]
        exact status.made
      · rw [channels]
        exact status.nameless
    exact logged (log_run_retired soundListening retired own late)
  · rw [if_neg removed] at status ⊢
    rw [← channels] at status
    exact logged (log_run_current soundListening status own late)

end

open Backend (Frame Source TenantId)

theorem globMatch_eq (pattern candidate : String) : globMatch pattern candidate = Backend.globMatch pattern candidate := by
  rw [globMatch, Backend.globMatch]
  generalize utf8 pattern = ps
  generalize utf8 candidate = cs
  induction ps generalizing cs with
  | nil => rfl
  | cons p ps ih =>
      cases cs <;> simp only [globHelper, Backend.globHelper, ih]

/-- How often a frame on the channel comes to a receiver of the name. -/
def copies (name channelId : String) : Nat :=
  if channelId = name then (if Receivers.isPattern name then 2 else 1)
  else if Receivers.isPattern name && Backend.globMatch name channelId then 1 else 0

theorem due_frame (name : String) (f : Frame) : due name f.raw.toList =
    List.replicate (copies name f.channelId) ⟨f.channelId, f.payload, f.tenantId⟩ := by
  have decoded : decodeFrame f.raw.toList = .ok ⟨f.opcode, f.tenantId, f.channelId, f.payload⟩ := by
    rw [RustCodec.decodeFrame_eq, Frame.parseSlice_raw]
    rfl
  have self : Backend.globMatch f.channelId f.channelId = true := by
    rw [Sdk.globMatch_server]
    exact glob_self '*' f.channelId.toList
  rw [due, decoded, copies]
  simp only [byName, byPattern, globMatch_eq, messageOf]
  by_cases same : f.channelId = name
  · subst same
    rw [self]
    cases Receivers.isPattern f.channelId <;> simp [List.replicate]
  · rw [if_neg same, if_neg same]
    split <;> simp [List.replicate]

theorem copies_pos_iff (tenantId : TenantId) (name channelId : String) : 0 < copies name channelId ↔
    (Sdk.sourceNamed tenantId name).matches ⟨tenantId, channelId⟩ = true := by
  rw [← PatternMatching.wanted_iff, copies, Bool.or_eq_true, beq_iff_eq]
  by_cases same : channelId = name
  · rw [if_pos same]
    refine iff_of_true ?_ (Or.inl same.symm)
    split <;> omega
  · rw [if_neg same, or_iff_right (Ne.symm same)]
    cases starred : Receivers.isPattern name with
    | true =>
        rw [Bool.true_and]
        split <;> simp_all
    | false =>
        have literal : '*' ∉ name.toList := by
          intro member
          rw [Receivers.isPattern, List.contains_iff_mem.mpr member] at starred
          cases starred
        rw [Sdk.globMatch_server, glob_literal_iff literal, String.toList_inj]
        simp [same]

/-- In every run and whatever else happens: the receiver of a call is sent what the looks of the dispatches find for
its name after it is attached and until the name is removed; nothing, if it was removed between. With what the loop
under way at the end still owes, this is what the loop under way at the beginning owes and what the name is due of
the buffers that arrive. Of a frame of the server it is due as many copies as `copies` says: one or none, or two
where the channel id is itself the pattern. -/
theorem receiver_log {shards : Shards} {pre mid post : List ReceiverEvent} {call : Nat} {name : String}
    {hub : Receivers}
    (reached : runs shards {} (pre ++ .enter call name :: (mid ++ .attach call :: post)) = some hub) :
    hub.log call = some (if .unsubscribe name ∈ mid then []
        else (post.takeWhile (· ≠ .unsubscribe name)).flatMap (·.delivered shards name)) ∧
      (∃ listening last, runs shards {} (pre ++ .enter call name :: (mid ++ [.attach call])) = some listening ∧
        runs shards listening (post.takeWhile (· ≠ .unsubscribe name)) = some last ∧
        owed shards name listening ++ (post.takeWhile (· ≠ .unsubscribe name)).flatMap (·.due name) =
          (post.takeWhile (· ≠ .unsubscribe name)).flatMap (·.delivered shards name) ++ owed shards name last) ∧
      (∀ f : Frame, due name f.raw.toList =
        List.replicate (copies name f.channelId) ⟨f.channelId, f.payload, f.tenantId⟩) ∧
      ∀ (tenantId : TenantId) (channelId : String), 0 < copies name channelId ↔
        (Sdk.sourceNamed tenantId name).matches ⟨tenantId, channelId⟩ = true := by
  refine ⟨log_of_run reached, ?_, due_frame name, fun tenantId => copies_pos_iff tenantId name⟩
  have split : pre ++ .enter call name :: (mid ++ .attach call :: post) =
      (pre ++ .enter call name :: (mid ++ [.attach call])) ++ post := by simp
  rw [split] at reached
  obtain ⟨listening, attached, late⟩ := Step.run_append_iff.mp reached
  rw [← List.takeWhile_append_dropWhile (p := fun e => decide (e ≠ .unsubscribe name)) (l := post)] at late
  obtain ⟨last, standing, _⟩ := Step.run_append_iff.mp late
  exact ⟨listening, last, attached, standing, owed_run name standing⟩

section Sample

def tenant : TenantId := List.Vector.replicate 16 1

def fourShards : Shards where
  count := 4
  of name := name.length % 4
  of_lt name := Nat.mod_lt _ (by decide)

def seventh : Frame := (⟨.message, tenant, "room:7", "hi"⟩ : Backend.FrameBuilder).frame (by decide) (by decide)
def starred : Frame := (⟨.message, tenant, "room:*", "yo"⟩ : Backend.FrameBuilder).frame (by decide) (by decide)

theorem step_incoming {hub : Receivers} (idle : hub.dispatching = none) (f : Frame) :
    hub.step fourShards (.incoming f.raw.toList) = some
      { hub.sendNamed (RustCodec.fieldsOf f) with dispatching := some (RustCodec.fieldsOf f, 0) } := by
  have decoded : decodeFrame f.raw.toList = .ok (RustCodec.fieldsOf f) := by
    rw [RustCodec.decodeFrame_eq, Frame.parseSlice_raw]
    rfl
  rw [Receivers.step, idle, Option.isSome_none, if_neg Bool.false_ne_true, decoded]

def visits (f : Frame) (shards : List Nat) : List ReceiverEvent := shards.map (.visit (RustCodec.fieldsOf f))

/-- The name is removed between the two looks for the second frame. -/
def arrivals : List ReceiverEvent :=
  .incoming seventh.raw.toList :: (visits seventh [0, 1, 2, 3] ++
    .incoming starred.raw.toList :: (visits starred [0, 1] ++
      .unsubscribe "room:*" :: visits starred [2]))

theorem receiver_log_removed : ∃ hub,
    runs fourShards {} ([] ++ .enter 0 "room:*" :: ([] ++ .attach 0 :: arrivals)) = some hub ∧
    hub.log 0 = some ((arrivals.takeWhile (· ≠ .unsubscribe "room:*")).flatMap (·.delivered fourShards "room:*")) ∧
    hub.log 0 = some [⟨"room:7", "hi", tenant⟩, ⟨"room:*", "yo", tenant⟩] := by
  have reached : runs fourShards {} ([] ++ .enter 0 "room:*" :: ([] ++ .attach 0 :: arrivals)) = some _ :=
    Step.run_cons_iff.mpr ⟨_, rfl, Step.run_cons_iff.mpr ⟨_, rfl, Step.run_cons_iff.mpr ⟨_, step_incoming rfl _,
      Step.run_append_iff.mpr ⟨_, rfl, Step.run_cons_iff.mpr ⟨_, step_incoming rfl _, rfl⟩⟩⟩⟩⟩
  exact ⟨_, reached, (receiver_log reached).1, by decide +kernel⟩

end Sample

end RealtimePlatform.Proof.RustReceivers
