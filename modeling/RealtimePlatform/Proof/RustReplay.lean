import RealtimePlatform.Sdk.RustClient

namespace RealtimePlatform.Proof.RustReplay
open Library Sdk.Rust Sdk.Rust.RealtimeClient
open Backend (Opcode RawFrame FrameBuilder lenChannel)

def unsubFrame (config : ClientConfig) (channelId : String) : RawFrame :=
  FrameBuilder.build { opcode := .unsub, tenantId := config.tenantId, channelId }

def Named (channelId : String) : Prop :=
  (utf8 channelId).length ≤ lenChannel ∧ trimEndNul channelId = channelId

def present (channels : Finset String) (k : String) : Nat := if k ∈ channels then 1 else 0

/-- When the client asks for each name once: no name is subscribed to that the map holds already, and none
is replayed whose SUB still waits, unless an UNSUB waits as well. -/
def Single (config : ClientConfig) (client : RealtimeClient) : Event → Prop
  | .subscribe k _ => Named k ∧ k ∉ client.channels
  | .unsubscribe k => Named k
  | .resubscribe k true => subFrame config k ∈ client.commands → unsubFrame config k ∈ client.commands
  | _ => True

section
variable {k : String} {n p p' : Nat} {raw : RawFrame} {early late commands : List RawFrame}

theorem uncancelled_append : uncancelled k n (early ++ late) = uncancelled k (uncancelled k n early) late :=
  List.foldl_append

theorem uncancelled_cons : uncancelled k n (raw :: late) = uncancelled k (uncancelled k n [raw]) late := rfl

/-- The frame is no SUB and no UNSUB of the name. -/
def Silent (k : String) (raw : RawFrame) : Prop := ∀ n, uncancelled k n [raw] = n

theorem uncancelled_silent (silent : ∀ raw ∈ late, Silent k raw) : uncancelled k n late = n := by
  induction late with
  | nil => rfl
  | cons raw late ih =>
      rw [uncancelled_cons, silent raw List.mem_cons_self]
      exact ih fun r member => silent r (List.mem_cons_of_mem raw member)

theorem uncancelled_build (b : FrameBuilder) : uncancelled k n [b.build] =
    if decodeText (writePadded lenChannel b.channelId) = some k then
      match b.opcode with
      | .subscribe => n + 1
      | .unsub => 0
      | _ => n
    else n := by
  have named : names k b.build = decide (decodeText (writePadded lenChannel b.channelId) = some k) := by
    rw [names, FrameBuilder.slice_channel_build]
  rw [uncancelled, List.foldl_cons, List.foldl_nil, named, FrameBuilder.byteAt_opcode_build,
    Opcode.tryFrom_toByte]
  simp only [decide_eq_true_eq]
  cases b.opcode <;> rfl

theorem silent_of_opcode {b : FrameBuilder} (noSub : b.opcode ≠ .subscribe) (noUnsub : b.opcode ≠ .unsub) :
    Silent k b.build := by
  intro n
  rw [uncancelled_build]
  split
  · cases opcode : b.opcode with
    | subscribe => exact absurd opcode noSub
    | unsub => exact absurd opcode noUnsub
    | _ => rfl
  · rfl

theorem silent_of_ne {b : FrameBuilder} (named : Named b.channelId) (apart : k ≠ b.channelId) :
    Silent k b.build := by
  intro n
  rw [uncancelled_build, decodeText_writePadded named.1, named.2, if_neg]
  exact fun same => apart (Option.some.inj same).symm

theorem silent_sub (config : ClientConfig) {other : String} (named : Named other) (apart : k ≠ other) :
    Silent k (subFrame config other) := silent_of_ne named apart

theorem uncancelled_sub (config : ClientConfig) (named : Named k) :
    uncancelled k n [subFrame config k] = n + 1 := by
  rw [subFrame, uncancelled_build, decodeText_writePadded named.1, named.2, if_pos rfl]

theorem uncancelled_unsub (config : ClientConfig) (named : Named k) :
    uncancelled k n [unsubFrame config k] = 0 := by
  rw [unsubFrame, uncancelled_build, decodeText_writePadded named.1, named.2, if_pos rfl]

theorem uncancelled_reset (config : ClientConfig) (named : Named k)
    (member : unsubFrame config k ∈ commands) (m : Nat) : uncancelled k n commands = uncancelled k m commands := by
  obtain ⟨before, after, rfl⟩ := List.append_of_mem member
  rw [uncancelled_append, uncancelled_append, uncancelled_cons, uncancelled_unsub config named, uncancelled_cons,
    uncancelled_unsub config named]

def Turns (k : String) (raw : RawFrame) (p p' : Nat) : Prop :=
  Silent k raw ∧ p' = p ∨ uncancelled k 0 [raw] = p' ∧ uncancelled k p [raw] = p'

theorem Turns.eq (turns : Turns k raw p p') : uncancelled k p [raw] = p' := by
  rcases turns with ⟨silent, rfl⟩ | ⟨_, counted⟩
  · exact silent p'
  · exact counted

def Orderly (k : String) (commands : List RawFrame) (p : Nat) : Prop :=
  ∀ cs, cs <:+ commands → (∀ raw ∈ cs, Silent k raw) ∨ uncancelled k 0 cs = p

theorem Orderly.push (orderly : Orderly k commands p) (turns : Turns k raw p p') :
    Orderly k (commands ++ [raw]) p' := by
  intro cs short
  rcases List.suffix_concat_iff.mp short with rfl | ⟨cs, rfl, inside⟩
  · exact Or.inl fun raw member => absurd member List.not_mem_nil
  · rw [uncancelled_append]
    rcases orderly cs inside with silent | counted
    · rw [uncancelled_silent silent]
      rcases turns with ⟨last, rfl⟩ | ⟨counted, _⟩
      · refine Or.inl fun r member => ?_
        rcases List.mem_append.mp member with old | new
        · exact silent r old
        · rw [List.mem_singleton.mp new]
          exact last
      · exact Or.inr counted
    · rw [counted]
      exact Or.inr turns.eq

theorem orderly_nil (k : String) (p : Nat) : Orderly k [] p := by
  intro cs short
  rw [List.suffix_nil.mp short]
  exact Or.inl fun raw member => absurd member List.not_mem_nil

theorem Orderly.tail (orderly : Orderly k (raw :: commands) p) : Orderly k commands p :=
  fun cs short => orderly cs (short.trans (List.suffix_cons raw commands))

end

section
variable {channelId : String} {met : Bool} {task : Task} {passed ahead' : Finset String}

theorem enter_resubscribing (there : task.enter channelId met = .resubscribing ahead' passed) :
    ∃ ahead, task = .resubscribing ahead passed ∧
      (ahead' = ahead ∨ channelId ∉ passed ∧ ahead' = insert channelId ahead) := by
  cases task with
  | resubscribing ahead old =>
      rw [Task.enter] at there
      split at there
      · rename_i enters
        cases there
        exact ⟨_, rfl, Or.inr ⟨enters.2, rfl⟩⟩
      · cases there
        exact ⟨_, rfl, Or.inl rfl⟩
  | _ => cases there

def replays : Task → Bool
  | .resubscribing _ _ => true
  | _ => false

theorem enter_iff {other : Task} (simple : replays other = false) :
    task.enter channelId met = other ↔ task = other := by
  cases task with
  | resubscribing ahead old =>
      refine iff_of_false ?_ ?_
      · rintro rfl
        rw [Task.enter] at simple
        split at simple <;> cases simple
      · rintro rfl
        cases simple
  | _ => exact Iff.rfl

theorem leave_resubscribing (there : task.leave channelId = .resubscribing ahead' passed) :
    ∃ ahead, task = .resubscribing ahead passed ∧ ahead' = ahead.erase channelId := by
  cases task with
  | resubscribing ahead old =>
      cases there
      exact ⟨ahead, rfl, rfl⟩
  | _ => cases there

theorem leave_iff {other : Task} (simple : replays other = false) :
    task.leave channelId = other ↔ task = other := by
  cases task with
  | resubscribing ahead old =>
      refine iff_of_false ?_ ?_
      · rintro rfl
        cases simple
      · rintro rfl
        cases simple
  | _ => exact Iff.rfl

end

structure Once (config : ClientConfig) (client : RealtimeClient) : Prop where
  named : ∀ k ∈ client.channels, Named k
  known : ∀ k, ∀ raw ∈ client.commands, Silent k raw ∨ raw = subFrame config k ∨ raw = unsubFrame config k
  orderly : ∀ k, Orderly k client.commands (present client.channels k)
  replaying : ∀ ahead passed, client.task = .resubscribing ahead passed →
    (∀ k ∈ ahead, k ∈ client.channels ∧ k ∉ passed) ∧
    (∀ k, k ∉ passed → uncancelled k 0 client.written = 0) ∧
    ∀ k, k ∉ ahead → uncancelled k 0 (client.written ++ client.commands) = present client.channels k
  serving : client.task = .serving →
    ∀ k, uncancelled k 0 (client.written ++ client.commands) = present client.channels k

section
variable {config : ClientConfig} {client : RealtimeClient}

theorem once_start : Once config {} where
  named k member := absurd member (Finset.notMem_empty k)
  known _ _ member := absurd member List.not_mem_nil
  orderly k := orderly_nil k _
  replaying := nofun
  serving := nofun

theorem once_push (once : Once config client) {channels : Finset String} {task : Task} {raw : RawFrame}
    (named : ∀ k ∈ channels, Named k)
    (known : ∀ k, Silent k raw ∨ raw = subFrame config k ∨ raw = unsubFrame config k)
    (turns : ∀ k, Turns k raw (present client.channels k) (present channels k))
    (replaying : ∀ ahead' passed, task = .resubscribing ahead' passed →
      ∃ ahead, client.task = .resubscribing ahead passed ∧ (∀ k ∈ ahead', k ∈ channels ∧ k ∉ passed) ∧
        ∀ k, k ∉ ahead' → k ∉ ahead ∨ ∀ n, uncancelled k n [raw] = present channels k)
    (serving : task = .serving → client.task = .serving) :
    Once config { client with channels, task, commands := client.commands ++ [raw] } := by
  refine ⟨named, fun k r member => ?_, fun k => (once.orderly k).push (turns k),
    fun ahead' passed there => ?_, fun there k => ?_⟩
  · rcases List.mem_append.mp member with old | new
    · exact once.known k r old
    · exact List.mem_singleton.mp new ▸ known k
  · obtain ⟨ahead, before, inside, outside⟩ := replaying ahead' passed there
    obtain ⟨_, unasked, current⟩ := once.replaying ahead passed before
    refine ⟨inside, unasked, fun k notAhead => ?_⟩
    rw [← List.append_assoc, uncancelled_append]
    rcases outside k notAhead with old | settled
    · rw [current k old]
      exact (turns k).eq
    · exact settled _
  · rw [← List.append_assoc, uncancelled_append, once.serving (serving there) k]
    exact (turns k).eq

theorem once_plain (once : Once config client) {raw : RawFrame} (silent : ∀ k, Silent k raw) :
    Once config { client with commands := client.commands ++ [raw] } :=
  once_push once once.named (fun k => Or.inl (silent k)) (fun k => Or.inl ⟨silent k, rfl⟩)
    (fun ahead passed there => ⟨ahead, there, (once.replaying ahead passed there).1, fun _ outside => Or.inl outside⟩)
    id

theorem ended_sendFrame (ended : client.task = .ended) (opcode : Opcode) (channelId payload : String) :
    (sendFrame config opcode channelId payload client).2 = client := by
  rw [sendFrame, if_pos ended]

theorem open_sendFrame (running : client.task ≠ .ended) (opcode : Opcode) (channelId payload : String) :
    (sendFrame config opcode channelId payload client).2 = { client with commands := client.commands ++
      [FrameBuilder.build { opcode, tenantId := config.tenantId, channelId, payload }] } := by
  rw [sendFrame, if_neg running]

theorem once_sendFrame (once : Once config client) (opcode : Opcode) (noSub : opcode ≠ .subscribe)
    (noUnsub : opcode ≠ .unsub) (channelId payload : String) :
    Once config (sendFrame config opcode channelId payload client).2 := by
  by_cases ended : client.task = .ended
  · rw [ended_sendFrame ended]
    exact once
  · rw [open_sendFrame ended]
    exact once_plain once fun k => silent_of_opcode noSub noUnsub

theorem once_idle (once : Once config client) (idle : client.task = .ended) (nothing : client.commands = [])
    {channels : Finset String} (named : ∀ k ∈ channels, Named k) : Once config { client with channels } where
  named := named
  known k raw member := once.known k raw member
  orderly k := by
    show Orderly k client.commands _
    rw [nothing]
    exact orderly_nil k _
  replaying ahead passed there := by
    rw [idle] at there
    cases there
  serving there := by
    rw [idle] at there
    cases there

theorem turns_sub {k channelId : String} (named : Named channelId) {channels : Finset String}
    (absent : channelId ∉ channels) : Turns k (subFrame config channelId) (present channels k)
      (present (insert channelId channels) k) := by
  by_cases same : k = channelId
  · subst same
    have before : present channels k = 0 := if_neg absent
    have after : present (insert k channels) k = 1 := if_pos (Finset.mem_insert_self k channels)
    rw [before, after]
    exact Or.inr ⟨uncancelled_sub config named, uncancelled_sub config named⟩
  · refine Or.inl ⟨silent_of_ne named same, ?_⟩
    simp only [present, Finset.mem_insert, same, false_or]

theorem turns_unsub {k channelId : String} (named : Named channelId) (channels : Finset String) :
    Turns k (unsubFrame config channelId) (present channels k) (present (channels.erase channelId) k) := by
  by_cases same : k = channelId
  · subst same
    have after : present (channels.erase k) k = 0 := if_neg (Finset.notMem_erase k channels)
    rw [after]
    exact Or.inr ⟨uncancelled_unsub config named, uncancelled_unsub config named⟩
  · refine Or.inl ⟨silent_of_ne named same, ?_⟩
    simp only [present, Finset.mem_erase, ne_eq, same, not_false_eq_true, true_and]

theorem once_subscribe (once : Once config client) (idle : client.task = .ended → client.commands = [])
    {channelId : String} (named : Named channelId) (absent : channelId ∉ client.channels) (met : Bool) :
    Once config (client.subscribe config channelId met) := by
  have all : ∀ k ∈ insert channelId client.channels, Named k := by
    intro k member
    rcases Finset.mem_insert.mp member with rfl | old
    · exact named
    · exact once.named k old
  unfold subscribe
  rw [if_neg absent]
  by_cases ended : client.task = .ended
  · have same : client.task.enter channelId met = client.task := by
      rw [ended]
      rfl
    rw [ended_sendFrame (same.trans ended), same]
    exact once_idle once ended (idle ended) all
  · have running : client.task.enter channelId met ≠ .ended := fun enters =>
      ended ((enter_iff rfl).mp enters)
    rw [open_sendFrame running]
    refine once_push once all (fun k => ?_) (fun k => turns_sub named absent)
      (fun ahead' passed there => ?_) (enter_iff rfl).mp
    · by_cases same : k = channelId
      · exact Or.inr (Or.inl (by rw [same]; rfl))
      · exact Or.inl (silent_of_ne named same)
    · obtain ⟨ahead, before, entered⟩ := enter_resubscribing there
      obtain ⟨inside, _, _⟩ := once.replaying ahead passed before
      refine ⟨ahead, before, fun k member => ?_, fun k outside => Or.inl ?_⟩
      · rcases entered with rfl | ⟨new, rfl⟩
        · exact ⟨Finset.mem_insert_of_mem (inside k member).1, (inside k member).2⟩
        · rcases Finset.mem_insert.mp member with rfl | old
          · exact ⟨Finset.mem_insert_self k _, new⟩
          · exact ⟨Finset.mem_insert_of_mem (inside k old).1, (inside k old).2⟩
      · rcases entered with rfl | ⟨_, rfl⟩
        · exact outside
        · exact fun old => outside (Finset.mem_insert_of_mem old)

theorem once_unsubscribe (once : Once config client) (idle : client.task = .ended → client.commands = [])
    {channelId : String} (named : Named channelId) : Once config (client.unsubscribe config channelId).2 := by
  have all : ∀ k ∈ client.channels.erase channelId, Named k :=
    fun k member => once.named k (Finset.mem_of_mem_erase member)
  unfold unsubscribe
  by_cases ended : client.task = .ended
  · have same : client.task.leave channelId = client.task := by
      rw [ended]
      rfl
    rw [ended_sendFrame (same.trans ended), same]
    exact once_idle once ended (idle ended) all
  · have running : client.task.leave channelId ≠ .ended := fun leaves =>
      ended ((leave_iff rfl).mp leaves)
    rw [open_sendFrame running]
    refine once_push once all (fun k => ?_) (fun k => turns_unsub named client.channels)
      (fun ahead' passed there => ?_) (leave_iff rfl).mp
    · by_cases same : k = channelId
      · exact Or.inr (Or.inr (by rw [same]; rfl))
      · exact Or.inl (silent_of_ne named same)
    · obtain ⟨ahead, before, rfl⟩ := leave_resubscribing there
      obtain ⟨inside, _, _⟩ := once.replaying ahead passed before
      refine ⟨ahead, before, fun k member => ?_, fun k outside => ?_⟩
      · obtain ⟨apart, old⟩ := Finset.mem_erase.mp member
        exact ⟨Finset.mem_erase.mpr ⟨apart, (inside k old).1⟩, (inside k old).2⟩
      · by_cases same : k = channelId
        · subst same
          refine Or.inr fun n => ?_
          rw [present, if_neg (Finset.notMem_erase k _)]
          exact uncancelled_unsub config named
        · exact Or.inl fun old => outside (Finset.mem_erase.mpr ⟨same, old⟩)

theorem once_again (named : ∀ k ∈ client.channels, Named k)
    (known : ∀ k, ∀ raw ∈ client.commands, Silent k raw ∨ raw = subFrame config k ∨ raw = unsubFrame config k)
    (orderly : ∀ k, Orderly k client.commands (present client.channels k)) :
    Once config (client.again config) := by
  unfold again
  split
  · exact ⟨named, known, orderly, nofun, nofun⟩
  · exact ⟨named, fun _ _ member => absurd member List.not_mem_nil, fun k => orderly_nil k _, nofun, nofun⟩

theorem once_connected (once : Once config client) (fresh : client.written = []) (sent : Bool) :
    Once config (client.connected config sent) := by
  cases sent with
  | false => exact once_again once.named once.known once.orderly
  | true =>
      have silent : ∀ k, Silent k (authFrame config) := fun k => silent_of_opcode nofun nofun
      refine ⟨once.named, once.known, once.orderly, fun ahead passed there => ?_, nofun⟩
      cases there
      show _ ∧ (∀ k, _ → uncancelled k 0 (client.written ++ [authFrame config]) = 0) ∧
        ∀ k, _ → uncancelled k 0 (client.written ++ [authFrame config] ++ client.commands) = _
      rw [fresh, List.nil_append]
      refine ⟨fun k member => ⟨member, Finset.notMem_empty k⟩, fun k _ => silent k 0, fun k absent => ?_⟩
      rw [uncancelled_append, silent k 0]
      rcases once.orderly k client.commands List.suffix_rfl with quiet | counted
      · rw [uncancelled_silent quiet]
        exact (if_neg absent).symm
      · exact counted

theorem once_resubscribe (once : Once config client) {ahead passed : Finset String} {k : String}
    (there : client.task = .resubscribing ahead passed) (member : k ∈ ahead)
    (single : subFrame config k ∈ client.commands → unsubFrame config k ∈ client.commands) :
    Once config (write config (subFrame config k) true
      { client with task := .resubscribing (ahead.erase k) (insert k passed) }) := by
  obtain ⟨inside, unasked, current⟩ := once.replaying ahead passed there
  obtain ⟨held, unpassed⟩ := inside k member
  have named := once.named k held
  refine ⟨once.named, once.known, once.orderly, fun ahead' passed' there => ?_, nofun⟩
  cases there
  show _ ∧ (∀ q, _ → uncancelled q 0 (client.written ++ [subFrame config k]) = 0) ∧
    ∀ q, _ → uncancelled q 0 (client.written ++ [subFrame config k] ++ client.commands) = _
  refine ⟨fun q old => ?_, fun q outside => ?_, fun q outside => ?_⟩
  · obtain ⟨apart, old⟩ := Finset.mem_erase.mp old
    refine ⟨(inside q old).1, fun entered => ?_⟩
    exact (Finset.mem_insert.mp entered).elim apart (inside q old).2
  · have apart : q ≠ k := fun same => outside (same ▸ Finset.mem_insert_self k passed)
    rw [uncancelled_append, unasked q fun old => outside (Finset.mem_insert_of_mem old)]
    exact silent_of_ne named apart 0
  · show _ = present client.channels q
    rw [uncancelled_append, uncancelled_append]
    by_cases same : q = k
    · subst same
      rw [unasked q unpassed, uncancelled_sub config named, present, if_pos held]
      by_cases waits : unsubFrame config q ∈ client.commands
      · rcases once.orderly q client.commands List.suffix_rfl with quiet | counted
        · exact uncancelled_silent quiet
        · rw [uncancelled_reset config named waits 0, counted]
          exact if_pos held
      · refine uncancelled_silent fun raw command => ?_
        rcases once.known q raw command with silent | rfl | rfl
        · exact silent
        · exact absurd (single command) waits
        · exact absurd command waits
    · rw [silent_sub config named same, ← uncancelled_append]
      exact current q fun old => outside (Finset.mem_erase.mpr ⟨same, old⟩)

theorem once_write (once : Once config client) (serving : client.task = .serving) {raw : RawFrame}
    (silent : ∀ k, Silent k raw) (sent : Bool) : Once config (write config raw sent client) := by
  cases sent with
  | false => exact once_again once.named once.known once.orderly
  | true =>
      refine ⟨once.named, once.known, once.orderly, fun ahead passed there => ?_, fun _ k => ?_⟩
      · exact absurd (serving.symm.trans there) nofun
      · show uncancelled k 0 (client.written ++ [raw] ++ client.commands) = present client.channels k
        rw [uncancelled_append, uncancelled_append, silent k, ← uncancelled_append]
        exact once.serving serving k

theorem once_command (once : Once config client) (serving : client.task = .serving) {raw : RawFrame}
    {commands : List RawFrame} (waiting : client.commands = raw :: commands) (sent : Bool) :
    Once config (write config raw sent { client with commands }) := by
  have known : ∀ k, ∀ r ∈ commands, Silent k r ∨ r = subFrame config k ∨ r = unsubFrame config k :=
    fun k r member => once.known k r (waiting ▸ List.mem_cons_of_mem raw member)
  have orderly : ∀ k, Orderly k commands (present client.channels k) := fun k => by
    have whole := once.orderly k
    rw [waiting] at whole
    exact whole.tail
  cases sent with
  | false => exact once_again once.named known orderly
  | true =>
      refine ⟨once.named, known, orderly, fun ahead passed there => ?_, fun _ k => ?_⟩
      · exact absurd (serving.symm.trans there) nofun
      · show uncancelled k 0 (client.written ++ [raw] ++ commands) = present client.channels k
        rw [List.append_assoc, List.singleton_append, ← waiting]
        exact once.serving serving k

structure Begun (config : ClientConfig) (client : RealtimeClient) : Prop where
  past : ∀ log ∈ client.past, log = [] ∨ log.head? = some (authFrame config)
  now : client.written.head? = some (authFrame config) ∨
    client.written = [] ∧ (client.task = .connecting ∨ client.task = .ended)
  fresh : client.task = .connecting → client.written = []
  idle : client.task = .ended → client.commands = []

theorem begun_start : Begun config {} :=
  ⟨fun _ member => absurd member List.not_mem_nil, Or.inr ⟨rfl, Or.inl rfl⟩, fun _ => rfl, nofun⟩

theorem Begun.written (begun : Begun config client) :
    client.written = [] ∨ client.written.head? = some (authFrame config) :=
  begun.now.elim Or.inr fun none => Or.inl none.1

theorem begun_again (past : ∀ log ∈ client.past, log = [] ∨ log.head? = some (authFrame config))
    (now : client.written = [] ∨ client.written.head? = some (authFrame config)) :
    Begun config (client.again config) := by
  unfold again
  split
  · refine ⟨fun log member => ?_, Or.inr ⟨rfl, Or.inl rfl⟩, fun _ => rfl, nofun⟩
    rcases List.mem_append.mp member with old | new
    · exact past log old
    · exact List.mem_singleton.mp new ▸ now
  · exact ⟨past, now.elim (fun none => Or.inr ⟨none, Or.inr rfl⟩) Or.inl, nofun, fun _ => rfl⟩

theorem begun_write (begun : Begun config client) (running : client.written.head? = some (authFrame config))
    (raw : RawFrame) (sent : Bool) {task : Task} {commands : List RawFrame} (busy : task ≠ .connecting)
    (goes : task ≠ .ended) : Begun config (write config raw sent { client with task, commands }) := by
  cases sent with
  | false => exact begun_again begun.past (Or.inr running)
  | true =>
      refine ⟨begun.past, Or.inl ?_, fun there => absurd there busy, fun there => absurd there goes⟩
      show (client.written ++ [raw]).head? = _
      rw [List.head?_append, running]
      rfl

theorem Begun.running (begun : Begun config client) (busy : client.task ≠ .connecting)
    (goes : client.task ≠ .ended) : client.written.head? = some (authFrame config) := by
  rcases begun.now with running | ⟨_, idle⟩
  · exact running
  · exact absurd idle (not_or.mpr ⟨busy, goes⟩)

theorem begun_sendFrame (begun : Begun config client) (opcode : Opcode) (channelId payload : String)
    {channels : Finset String} {task : Task} (connecting : task = .connecting ↔ client.task = .connecting)
    (ended : task = .ended ↔ client.task = .ended) :
    Begun config (sendFrame config opcode channelId payload { client with channels, task }).2 := by
  have now : client.written.head? = some (authFrame config) ∨
      client.written = [] ∧ (task = .connecting ∨ task = .ended) := by
    rw [connecting, ended]
    exact begun.now
  by_cases idle : task = .ended
  · rw [ended_sendFrame (by exact idle)]
    exact ⟨begun.past, now, fun there => begun.fresh (connecting.mp there), fun there => begun.idle (ended.mp there)⟩
  · rw [open_sendFrame (by exact idle)]
    exact ⟨begun.past, now, fun there => begun.fresh (connecting.mp there), fun there => absurd there idle⟩

theorem begun_step {client' : RealtimeClient} {e : Event} (begun : Begun config client)
    (taken : step config client e = some client') : Begun config client' := by
  cases e with
  | publish channelId payload | unicast channelId payload =>
      obtain ⟨_, same⟩ := Option.ite_none_right_eq_some.mp taken
      exact Option.some.inj same ▸ begun_sendFrame begun _ _ _ Iff.rfl Iff.rfl
  | replay channelId sinceUnixSecs =>
      obtain ⟨_, same⟩ := Option.ite_none_right_eq_some.mp taken
      exact Option.some.inj same ▸ begun_sendFrame begun _ _ _ Iff.rfl Iff.rfl
  | subscribe channelId met =>
      obtain ⟨_, same⟩ := Option.ite_none_right_eq_some.mp taken
      rw [← Option.some.inj same, subscribe]
      split
      · exact begun_sendFrame begun _ _ _ Iff.rfl Iff.rfl
      · exact begun_sendFrame begun _ _ _ (enter_iff rfl) (enter_iff rfl)
  | unsubscribe channelId =>
      obtain ⟨_, same⟩ := Option.ite_none_right_eq_some.mp taken
      exact Option.some.inj same ▸ begun_sendFrame begun _ _ _ (leave_iff rfl) (leave_iff rfl)
  | disconnect =>
      obtain ⟨_, same⟩ := Option.ite_none_right_eq_some.mp taken
      refine Option.some.inj same ▸ ⟨begun.past, ?_, nofun, fun _ => rfl⟩
      exact begun.written.elim (fun none => Or.inr ⟨none, Or.inr rfl⟩) Or.inl
  | connectFailed =>
      simp only [step] at taken
      split at taken
      · rename_i connecting
        rw [← Option.some.inj taken]
        split
        · exact begun
        · exact ⟨begun.past, Or.inr ⟨begun.fresh connecting, Or.inr rfl⟩, nofun, fun _ => rfl⟩
      · cases taken
  | connected sent =>
      simp only [step] at taken
      split at taken
      · rename_i connecting
        have fresh := begun.fresh connecting
        rw [← Option.some.inj taken, connected]
        cases sent with
        | false => exact begun_again begun.past (Or.inl fresh)
        | true =>
            refine ⟨begun.past, Or.inl ?_, nofun, nofun⟩
            show (client.written ++ [authFrame config]).head? = _
            rw [fresh]
            rfl
      · cases taken
  | resubscribe k sent =>
      simp only [step] at taken
      split at taken
      · rename_i ahead passed there
        obtain ⟨_, same⟩ := Option.ite_none_right_eq_some.mp taken
        have running := begun.running (by rw [there]; exact nofun) (by rw [there]; exact nofun)
        exact Option.some.inj same ▸ begun_write begun running _ sent nofun nofun
      · cases taken
  | resubscribed =>
      simp only [step] at taken
      split at taken
      · rename_i ahead passed there
        obtain ⟨_, same⟩ := Option.ite_none_right_eq_some.mp taken
        have running := begun.running (by rw [there]; exact nofun) (by rw [there]; exact nofun)
        exact Option.some.inj same ▸ ⟨begun.past, Or.inl running, nofun, nofun⟩
      · cases taken
  | heartbeat sent =>
      simp only [step] at taken
      split at taken
      · rename_i there
        have running := begun.running (by rw [there]; exact nofun) (by rw [there]; exact nofun)
        exact Option.some.inj taken ▸ begun_write begun running _ sent (by rw [there]; exact nofun)
          (by rw [there]; exact nofun)
      · cases taken
  | command sent =>
      simp only [step] at taken
      split at taken
      · rename_i there waiting
        have running := begun.running (by rw [there]; exact nofun) (by rw [there]; exact nofun)
        exact Option.some.inj taken ▸ begun_write begun running _ sent (by rw [there]; exact nofun)
          (by rw [there]; exact nofun)
      · cases taken
  | lost =>
      simp only [step] at taken
      split at taken
      · exact Option.some.inj taken ▸ begun_again begun.past begun.written
      · cases taken

theorem once_step {client' : RealtimeClient} {e : Event} (begun : Begun config client)
    (once : Once config client) (single : Single config client e) (taken : step config client e = some client') :
    Once config client' := by
  cases e with
  | publish channelId payload =>
      obtain ⟨_, same⟩ := Option.ite_none_right_eq_some.mp taken
      exact Option.some.inj same ▸ once_sendFrame once .publish nofun nofun _ _
  | unicast userId payload =>
      obtain ⟨_, same⟩ := Option.ite_none_right_eq_some.mp taken
      exact Option.some.inj same ▸ once_sendFrame once .unicast nofun nofun _ _
  | replay channelId sinceUnixSecs =>
      obtain ⟨_, same⟩ := Option.ite_none_right_eq_some.mp taken
      exact Option.some.inj same ▸ once_sendFrame once .replay nofun nofun _ _
  | subscribe channelId met =>
      obtain ⟨_, same⟩ := Option.ite_none_right_eq_some.mp taken
      exact Option.some.inj same ▸ once_subscribe once begun.idle single.1 single.2 met
  | unsubscribe channelId =>
      obtain ⟨_, same⟩ := Option.ite_none_right_eq_some.mp taken
      exact Option.some.inj same ▸ once_unsubscribe once begun.idle single
  | disconnect =>
      obtain ⟨_, same⟩ := Option.ite_none_right_eq_some.mp taken
      exact Option.some.inj same ▸ ⟨once.named, fun _ _ member => absurd member List.not_mem_nil,
        fun k => orderly_nil k _, nofun, nofun⟩
  | connectFailed =>
      simp only [step] at taken
      split at taken
      · rw [← Option.some.inj taken]
        split
        · exact once
        · exact ⟨once.named, fun _ _ member => absurd member List.not_mem_nil, fun k => orderly_nil k _, nofun,
            nofun⟩
      · cases taken
  | connected sent =>
      simp only [step] at taken
      split at taken
      · rename_i connecting
        exact Option.some.inj taken ▸ once_connected once (begun.fresh connecting) sent
      · cases taken
  | resubscribe k sent =>
      simp only [step] at taken
      split at taken
      · rename_i ahead passed there
        obtain ⟨member, same⟩ := Option.ite_none_right_eq_some.mp taken
        rw [← Option.some.inj same]
        cases sent with
        | false => exact once_again once.named once.known once.orderly
        | true => exact once_resubscribe once there member single
      · cases taken
  | resubscribed =>
      simp only [step] at taken
      split at taken
      · rename_i ahead passed there
        obtain ⟨nothing, same⟩ := Option.ite_none_right_eq_some.mp taken
        obtain ⟨_, _, current⟩ := once.replaying ahead passed there
        rw [← Option.some.inj same]
        refine ⟨once.named, once.known, once.orderly, nofun, fun _ k => current k ?_⟩
        rw [nothing]
        exact Finset.notMem_empty k
      · cases taken
  | heartbeat sent =>
      simp only [step] at taken
      split at taken
      · rename_i there
        have silent : ∀ k, Silent k (pingFrame config) := fun k => silent_of_opcode nofun nofun
        exact Option.some.inj taken ▸ once_write once there silent sent
      · cases taken
  | command sent =>
      simp only [step] at taken
      split at taken
      · rename_i there waiting
        exact Option.some.inj taken ▸ once_command once there waiting sent
      · cases taken
  | lost =>
      simp only [step] at taken
      split at taken
      · exact Option.some.inj taken ▸ once_again once.named once.known once.orderly
      · cases taken

end

/-- Every connection starts with AUTH and, whenever the commands are drained, has asked for each name of
the map once and for no other. -/
def Replays (config : ClientConfig) (client : RealtimeClient) : Prop :=
  (∀ log ∈ client.past ++ [client.written], log = [] ∨ log.head? = some (authFrame config)) ∧
    (client.task = .serving → client.commands = [] →
      ∀ k, uncancelled k 0 client.written = if k ∈ client.channels then 1 else 0)

-- `subscribe` and `unsubscribe` are single steps here: no replay comes between the map and the command.
theorem replays_once (config : ClientConfig) (client : RealtimeClient) (es : List Event)
    (reached : (step config).run {} es = some client) (single : (step config).Meets (Single config) {} es) :
    Replays config client := by
  have keep : ∀ c e c', Begun config c ∧ Once config c → Single config c e → step config c e = some c' →
      Begun config c' ∧ Once config c' :=
    fun c e c' both single taken => ⟨begun_step both.1 taken, once_step both.1 both.2 single taken⟩
  obtain ⟨begun, once⟩ := Step.run_invariant_of_meets keep reached ⟨begun_start, once_start⟩ single
  refine ⟨fun log member => ?_, fun serving drained k => ?_⟩
  · rcases List.mem_append.mp member with old | current
    · exact begun.past log old
    · exact List.mem_singleton.mp current ▸ begun.written
  · have asked := once.serving serving k
    rwa [drained, List.append_nil] at asked

def sample : ClientConfig := ⟨List.Vector.replicate 16 0, "t", true⟩

def askedTwice : RealtimeClient :=
  { channels := {"a"}
    task := .serving
    written := [authFrame sample, subFrame sample "a", subFrame sample "a"] }

theorem named_a : Named "a" := ⟨by decide, by decide⟩

theorem replays_twice :
    (step sample).run {} [.subscribe "a" true, .connected true, .resubscribe "a" true, .resubscribed,
      .command true] = some askedTwice ∧ ¬ Replays sample askedTwice := by
  refine ⟨by rfl, fun replays => ?_⟩
  have once := replays.2 rfl rfl "a"
  have silent : Silent "a" (authFrame sample) := silent_of_opcode nofun nofun
  rw [askedTwice, uncancelled_cons, silent, uncancelled_cons, uncancelled_sub sample named_a,
    uncancelled_sub sample named_a] at once
  simp at once

theorem replays_once_served : Replays sample
    { channels := {"a"}, task := .serving, written := [authFrame sample, subFrame sample "a"] } := by
  refine replays_once sample _ [.connected true, .resubscribed, .subscribe "a" true, .command true] (by rfl) ?_
  refine ⟨trivial, fun c first => ⟨trivial, fun d second => ⟨⟨named_a, ?_⟩, fun _ _ => ⟨trivial, fun _ _ => trivial⟩⟩⟩⟩
  obtain rfl := Option.some.inj first
  obtain rfl := Option.some.inj second
  exact Finset.notMem_empty "a"

end RealtimePlatform.Proof.RustReplay
