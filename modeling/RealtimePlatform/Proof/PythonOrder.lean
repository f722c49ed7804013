import RealtimePlatform.Sdk.PythonClient

namespace RealtimePlatform.Proof.PythonOrder
open Library Sdk.Python Sdk.Python.RealtimeClient
open Backend (Opcode RawFrame)

def numbers (client : RealtimeClient) : List Nat := client.written.filterMap (·.2.call)

def unflushed : Connection → List (Nat × Call)
  | .flushing rest => rest
  | _ => []

/-- Calls that were left for the next connection and have not come to `_send` yet. -/
def queued (client : RealtimeClient) : List (Nat × Call) := unflushed client.connection ++ client.pendingSends

def outstanding (client : RealtimeClient) : List Nat :=
  client.waiting.filterMap (·.call) ++ (queued client).map (·.1)

/-- The frames of the calls reach the sockets in the order of the calls, each at most once, and no call is
overtaken by a later one. -/
structure InCallOrder (config : ClientConfig) (client : RealtimeClient) : Prop where
  written : (numbers client).Pairwise (· < ·)
  next : ∀ i ∈ numbers client, ∀ j ∈ outstanding client, i < j
  frames : ∀ w sender i, (w, sender) ∈ client.written → sender.call = some i →
    ∃ call, client.calls[i]? = some call ∧ sender.raw = callFrame config call

/-- The first frame on every connection is AUTH. -/
def AuthFirst (config : ClientConfig) (client : RealtimeClient) : Prop :=
  ∀ w sent, client.written.find? (·.1 = w) = some sent → sent.2.raw = (authSender config).raw

/-- No call is made on a connection while earlier ones are queued, and no task waits for the lock when a
connection is made. -/
def Undisturbed (client : RealtimeClient) : Event → Prop
  | .publish .. | .unicast .. | .replay .. => client.ws = none ∨ queued client = []
  | .connected => client.waiting = []
  | _ => True

section
variable {config : ClientConfig} {client client' : RealtimeClient} {e : Event} {sender : Sender}

def tagged (sender : Sender) : Option (Nat × RawFrame) := sender.call.map fun i => (i, sender.raw)

def pendingLine (config : ClientConfig) (calls : List (Nat × Call)) : List (Nat × RawFrame) :=
  calls.map fun (i, call) => (i, callFrame config call)

def line (config : ClientConfig) (client : RealtimeClient) : List (Nat × RawFrame) :=
  client.written.filterMap (fun sent => tagged sent.2) ++
    (client.waiting.filterMap tagged ++ pendingLine config (queued client))

theorem map_fst_tagged (senders : List Sender) :
    (senders.filterMap tagged).map (·.1) = senders.filterMap (·.call) := by
  rw [List.map_filterMap]
  congr 1
  funext sender
  rw [tagged, Option.map_map]
  exact Option.map_id'

theorem map_fst_line (config : ClientConfig) (client : RealtimeClient) :
    (line config client).map (·.1) = numbers client ++ outstanding client := by
  have front : (client.written.filterMap fun sent => tagged sent.2).map (·.1) = numbers client := by
    rw [show (fun sent : Nat × Sender => tagged sent.2) = tagged ∘ Prod.snd from rfl, ← List.filterMap_map,
      map_fst_tagged, List.filterMap_map]
    rfl
  rw [line, List.map_append, List.map_append, front, map_fst_tagged, pendingLine, List.map_map]
  rfl

structure InLine (config : ClientConfig) (client : RealtimeClient) : Prop where
  order : (line config client).Pairwise (·.1 < ·.1)
  frames : ∀ item ∈ line config client, ∃ call, client.calls[item.1]? = some call ∧ item.2 = callFrame config call

theorem in_call_order (inLine : InLine config client) : InCallOrder config client := by
  have order := List.pairwise_map.mpr inLine.order
  rw [map_fst_line] at order
  obtain ⟨written, _, next⟩ := List.pairwise_append.mp order
  refine ⟨written, next, fun w sender i member call => ?_⟩
  refine inLine.frames (i, sender.raw) (List.mem_append_left _ (List.mem_filterMap.mpr ⟨_, member, ?_⟩))
  rw [tagged, call]
  rfl

def Shrinks (config : ClientConfig) (client client' : RealtimeClient) : Prop :=
  client'.calls = client.calls ∧ (line config client').Sublist (line config client)

def Lengthens (config : ClientConfig) (client client' : RealtimeClient) : Prop :=
  ∃ call, client'.calls = client.calls ++ [call] ∧
    line config client' = line config client ++ [(client.calls.length, callFrame config call)]

theorem in_line_of_shrinks (inLine : InLine config client) (shrinks : Shrinks config client client') :
    InLine config client' := by
  refine ⟨inLine.order.sublist shrinks.2, fun item member => ?_⟩
  rw [shrinks.1]
  exact inLine.frames item (shrinks.2.subset member)

theorem in_line_of_lengthens (inLine : InLine config client) (lengthens : Lengthens config client client') :
    InLine config client' := by
  obtain ⟨call, calls, longer⟩ := lengthens
  have bound : ∀ item ∈ line config client, item.1 < client.calls.length := by
    intro item member
    obtain ⟨_, found, _⟩ := inLine.frames item member
    exact (List.getElem?_eq_some_iff.mp found).1
  constructor
  · rw [longer]
    refine List.pairwise_append.mpr ⟨inLine.order, List.pairwise_singleton _ _, fun item member last same => ?_⟩
    rw [List.mem_singleton.mp same]
    exact bound item member
  · intro item member
    rw [longer, List.mem_append, List.mem_singleton] at member
    rcases member with old | rfl
    · obtain ⟨was, found, raw⟩ := inLine.frames item old
      exact ⟨was, by rw [calls, List.getElem?_append_left (bound item old), found], raw⟩
    · exact ⟨call, by simp [calls], rfl⟩

theorem Shrinks.trans {client₁ client₂ client₃ : RealtimeClient} (first : Shrinks config client₁ client₂)
    (second : Shrinks config client₂ client₃) : Shrinks config client₁ client₃ :=
  ⟨second.1.trans first.1, second.2.trans first.2⟩

theorem shrinks_of_eq (calls : client'.calls = client.calls) (same : line config client' = line config client) :
    Shrinks config client client' :=
  ⟨calls, same ▸ List.Sublist.refl _⟩

theorem shrinks_of_sublist (calls : client'.calls = client.calls) (written : client'.written = client.written)
    (waiting : client'.waiting.Sublist client.waiting) (rest : (queued client').Sublist (queued client)) :
    Shrinks config client client' := by
  refine ⟨calls, ?_⟩
  rw [line, line, written]
  exact ((waiting.filterMap _).append (rest.map _)).append_left _

theorem queued_sublist (nothing : unflushed client'.connection = [])
    (pending : client'.pendingSends = client.pendingSends) : (queued client').Sublist (queued client) := by
  rw [queued, queued, nothing, pending]
  exact List.sublist_append_right _ _

theorem line_join (config : ClientConfig) (sender : Sender) (client : RealtimeClient) :
    line config (join sender client) = client.written.filterMap (fun sent => tagged sent.2) ++
      (client.waiting.filterMap tagged ++ ((tagged sender).toList ++ pendingLine config (queued client))) := by
  have same : (join sender client).waiting.filterMap tagged =
      client.waiting.filterMap tagged ++ (tagged sender).toList := by
    rw [join, List.filterMap_append]
    cases tag : tagged sender <;> simp [tag]
  rw [line, same, List.append_assoc]
  rfl

theorem line_join_silent (silent : sender.call = none) : line config (join sender client) = line config client := by
  rw [line_join, tagged, silent]
  rfl

theorem line_flush (config : ClientConfig) (calls : List (Nat × Call)) (client : RealtimeClient) :
    line config (flush config calls client) = client.written.filterMap (fun sent => tagged sent.2) ++
      (client.waiting.filterMap tagged ++ pendingLine config (calls ++ client.pendingSends)) := by
  cases calls with
  | nil => rfl
  | cons pending rest =>
      rw [flush, line_join]
      rfl

theorem line_resubscribe (config : ClientConfig) (names : List String) (client : RealtimeClient) :
    line config (resubscribe config names client) = client.written.filterMap (fun sent => tagged sent.2) ++
      (client.waiting.filterMap tagged ++ pendingLine config client.pendingSends) := by
  cases names with
  | nil => rw [resubscribe, line_flush, List.append_nil]
  | cons name rest =>
      rw [resubscribe, line_join_silent rfl]
      rfl

theorem line_proceed (config : ClientConfig) (client : RealtimeClient) :
    line config (proceed config client) = line config client := by
  unfold proceed
  split
  · rename_i state
    rw [line_resubscribe, line, queued, state]
    rfl
  · rename_i state
    rw [line_resubscribe, line, queued, state]
    rfl
  · rename_i state
    rw [line_flush, line, queued, state]
    rfl
  · rfl

theorem calls_flush (calls : List (Nat × Call)) : (flush config calls client).calls = client.calls := by
  cases calls <;> rfl

theorem calls_proceed : (proceed config client).calls = client.calls := by
  unfold proceed
  split
  · generalize client.subscriptions.map (·.1) = names
    cases names with
    | nil => exact calls_flush _
    | cons => rfl
  · rename_i names _
    cases names with
    | nil => exact calls_flush _
    | cons => rfl
  · exact calls_flush _
  · rfl

theorem waiting_cancelHeartbeat : (cancelHeartbeat client).waiting.Sublist client.waiting := List.filter_sublist

theorem shrinks_lost (code : Option Nat) : Shrinks config client (lost config code client) := by
  refine shrinks_of_sublist rfl rfl waiting_cancelHeartbeat (queued_sublist ?_ rfl)
  rw [lost]
  split
  · rfl
  · split <;> rfl

theorem shrinks_aborted : Shrinks config client client.aborted :=
  shrinks_of_sublist rfl rfl waiting_cancelHeartbeat (queued_sublist rfl rfl)

theorem shrinks_raises (code : Option Nat) (task : Task) : Shrinks config client (raises config code client task) := by
  cases task with
  | connection => exact shrinks_lost code
  | heartbeat | application => exact shrinks_of_eq rfl rfl

theorem shrinks_join (silent : sender.call = none) : Shrinks config client (join sender client) :=
  shrinks_of_eq rfl (line_join_silent silent)

theorem shrinks_sent : Shrinks config client (sent config sender client) := by
  unfold sent
  split
  · exact shrinks_of_eq calls_proceed (line_proceed config client)
  · exact shrinks_of_eq rfl rfl

theorem shrinks_waiting {waiting : List Sender} (sublist : waiting.Sublist client.waiting) :
    Shrinks config client { client with waiting } :=
  shrinks_of_sublist rfl rfl sublist (List.Sublist.refl _)

theorem shrinks_write {w : Nat} {rest : List Sender} (first : client.waiting = sender :: rest) :
    Shrinks config client { client with
      waiting := rest, holder := some (w, sender), written := client.written ++ [(w, sender)] } := by
  refine shrinks_of_eq rfl ?_
  rw [line, line, first, List.filterMap_append, List.append_assoc, List.filterMap_cons]
  cases tag : tagged sender <;> simp [tag] <;> rfl

theorem lengthens_call (undisturbed : client.ws = none ∨ queued client = []) (opcode : Opcode)
    (channelId payload : String) : Lengthens config client (sendOrQueue config opcode channelId payload client) := by
  refine ⟨⟨opcode, channelId, payload⟩, ?_⟩
  unfold sendOrQueue
  split
  · rename_i current
    have nothing := undisturbed.resolve_left (by simp [current])
    refine ⟨rfl, ?_⟩
    rw [line_join, line, show queued { client with calls := client.calls ++ [⟨opcode, channelId, payload⟩] } =
      queued client from rfl, nothing]
    simp [tagged, pendingLine]
  · refine ⟨rfl, ?_⟩
    rw [line, line, queued, queued, pendingLine, pendingLine]
    simp

structure Quiet (config : ClientConfig) (client client' : RealtimeClient) : Prop where
  written : client'.written = client.written
  sockets : client.sockets.length ≤ client'.sockets.length
  ws : client'.ws = none ∨ client'.ws = client.ws ∧
    (client.waiting.head? = some (authSender config) → client'.waiting.head? = some (authSender config))

theorem quiet_gone (written : client'.written = client.written) (sockets : client'.sockets = client.sockets)
    (gone : client'.ws = none) : Quiet config client client' :=
  ⟨written, by rw [sockets], Or.inl gone⟩

theorem quiet_kept (written : client'.written = client.written)
    (sockets : client'.sockets.length = client.sockets.length) (ws : client'.ws = client.ws)
    (waiting : client.waiting <+: client'.waiting) : Quiet config client client' := by
  refine ⟨written, sockets.ge, Or.inr ⟨ws, fun head => ?_⟩⟩
  obtain ⟨more, waiting⟩ := waiting
  rw [← waiting, List.head?_append, head]
  rfl

theorem quiet_refl : Quiet config client client := quiet_kept rfl rfl rfl List.prefix_rfl

theorem quiet_join : Quiet config client (join sender client) :=
  quiet_kept rfl rfl rfl (List.prefix_append _ _)

theorem head_filter {senders : List Sender} {p : Sender → Bool} (stays : p (authSender config) = true)
    (head : senders.head? = some (authSender config)) : (senders.filter p).head? = some (authSender config) := by
  cases senders with
  | nil => cases head
  | cons first rest =>
      obtain rfl := Option.some.inj head
      rw [List.filter_cons_of_pos stays]
      rfl

theorem quiet_flush (calls : List (Nat × Call)) : Quiet config client (flush config calls client) := by
  cases calls with
  | nil => exact quiet_kept rfl rfl rfl List.prefix_rfl
  | cons => exact quiet_kept rfl rfl rfl (List.prefix_append _ _)

theorem quiet_resubscribe (names : List String) : Quiet config client (resubscribe config names client) := by
  cases names with
  | nil =>
      have emptied : Quiet config { client with pendingSends := [] } (resubscribe config [] client) :=
        quiet_flush client.pendingSends
      exact ⟨emptied.written, emptied.sockets, emptied.ws⟩
  | cons => exact quiet_kept rfl rfl rfl (List.prefix_append _ _)

theorem quiet_sent : Quiet config client (sent config sender client) := by
  unfold sent
  split
  · unfold proceed
    split
    · exact quiet_resubscribe _
    · exact quiet_resubscribe _
    · exact quiet_flush _
    · exact quiet_refl
  · exact quiet_refl

theorem quiet_call (opcode : Opcode) (channelId payload : String) :
    Quiet config client (sendOrQueue config opcode channelId payload client) := by
  unfold sendOrQueue
  split
  · exact quiet_kept rfl rfl rfl (List.prefix_append _ _)
  · exact quiet_kept rfl rfl rfl List.prefix_rfl

theorem quiet_raises {rest : List Sender} (code : Option Nat)
    (other : sender.task ≠ .connection → client.waiting.head? = some (authSender config) →
      rest.head? = some (authSender config)) :
    Quiet config client (raises config code { client with waiting := rest } sender.task) := by
  cases task : sender.task with
  | connection => exact quiet_gone rfl rfl rfl
  | heartbeat | application => exact ⟨rfl, Nat.le_refl _, Or.inr ⟨rfl, other (by simp [task])⟩⟩

inductive Effect (config : ClientConfig) (client client' : RealtimeClient) : Prop where
  | quiet (shrinks : Shrinks config client client') (quiet : Quiet config client client')
  | called (lengthens : Lengthens config client client') (quiet : Quiet config client client')
  | wrote {w : Nat} {sender : Sender} (shrinks : Shrinks config client client') (current : client.ws = some w)
      (first : client.waiting.head? = some sender) (written : client'.written = client.written ++ [(w, sender)])
      (ws : client'.ws = client.ws) (sockets : client'.sockets = client.sockets)
  | connected (shrinks : Shrinks config client client') (written : client'.written = client.written)
      (waiting : client'.waiting = [authSender config]) (ws : client'.ws = some client.sockets.length)
      (sockets : client'.sockets.length = client.sockets.length + 1)

theorem effect_of_eq (calls : client'.calls = client.calls) (written : client'.written = client.written)
    (waiting : client'.waiting = client.waiting) (connection : client'.connection = client.connection)
    (pending : client'.pendingSends = client.pendingSends) (ws : client'.ws = client.ws)
    (sockets : client'.sockets.length = client.sockets.length) : Effect config client client' := by
  refine .quiet (shrinks_of_eq calls ?_) (quiet_kept written sockets ws (waiting ▸ List.prefix_rfl))
  rw [line, line, written, waiting, queued, connection, pending]
  rfl

theorem effect_acquire {rest : List Sender} (first : client.waiting = sender :: rest) :
    Effect config client (acquire config sender { client with waiting := rest }) := by
  have leaves : Shrinks config client { client with waiting := rest } :=
    shrinks_waiting (first ▸ List.sublist_cons_self sender rest)
  have other : sender.task ≠ .connection → client.waiting.head? = some (authSender config) →
      rest.head? = some (authSender config) := by
    intro different head
    rw [first] at head
    exact absurd (Option.some.inj head ▸ rfl) different
  unfold acquire
  split
  · exact .quiet (leaves.trans (shrinks_raises none _)) (quiet_raises none other)
  · rename_i w current
    split
    · exact .quiet (leaves.trans (shrinks_raises _ _)) (quiet_raises _ other)
    · exact .wrote (w := w) (shrinks_write first) current (by rw [first]; rfl) rfl rfl rfl

theorem effect_step (undisturbed : Undisturbed client e) (taken : step config client e = some client') :
    Effect config client client' := by
  cases e with
  | connect =>
      simp only [step] at taken
      split at taken
      · rename_i idle
        rw [← Option.some.inj taken]
        exact .quiet (shrinks_of_sublist rfl rfl (List.Sublist.refl _) (queued_sublist rfl rfl))
          (quiet_kept rfl rfl rfl List.prefix_rfl)
      · cases taken
  | disconnect =>
      rw [← Option.some.inj taken]
      refine .quiet (shrinks_of_sublist rfl rfl waiting_cancelHeartbeat (List.Sublist.refl _))
        ⟨rfl, ?_, Or.inr ⟨rfl, head_filter rfl⟩⟩
      rw [disconnect]
      split
      · rw [List.length_modify]
      · exact Nat.le_refl _
  | cancelled =>
      obtain ⟨_, same⟩ := Option.ite_none_right_eq_some.mp taken
      rw [← Option.some.inj same]
      exact .quiet (shrinks_of_sublist rfl rfl (List.filter_sublist.trans waiting_cancelHeartbeat)
        (queued_sublist rfl rfl)) (quiet_gone rfl rfl rfl)
  | subscribe channelId handler =>
      rw [← Option.some.inj taken, subscribe]
      split <;> exact effect_of_eq rfl rfl rfl rfl rfl rfl rfl
  | unsubscribe channelId handler =>
      rw [← Option.some.inj taken, unsubscribe]
      split
      · exact effect_of_eq rfl rfl rfl rfl rfl rfl rfl
      · split <;> exact effect_of_eq rfl rfl rfl rfl rfl rfl rfl
  | start i =>
      obtain ⟨⟨opcode, channelId⟩, _, rfl⟩ := Option.map_eq_some_iff.mp taken
      dsimp only [start]
      split
      · exact effect_of_eq rfl rfl rfl rfl rfl rfl rfl
      · exact .quiet (shrinks_of_eq rfl (line_join_silent rfl))
          (quiet_kept rfl rfl rfl (List.prefix_append _ _))
  | publish channelId payload =>
      exact Option.some.inj taken ▸ .called (lengthens_call undisturbed .publish _ _) (quiet_call _ _ _)
  | unicast userId payload =>
      exact Option.some.inj taken ▸ .called (lengthens_call undisturbed .unicast _ _) (quiet_call _ _ _)
  | replay channelId sinceUnixSecs =>
      exact Option.some.inj taken ▸ .called (lengthens_call undisturbed .replay _ _) (quiet_call _ _ _)
  | abandon i =>
      obtain ⟨sender, found, taken⟩ := Option.bind_eq_some_iff.mp taken
      obtain ⟨application, same⟩ := Option.ite_none_right_eq_some.mp taken
      rw [← Option.some.inj same]
      refine .quiet (shrinks_waiting (List.eraseIdx_sublist ..)) ⟨rfl, Nat.le_refl _, Or.inr ⟨rfl, fun head => ?_⟩⟩
      cases i with
      | zero =>
          rw [← List.head?_eq_getElem?, head] at found
          rw [← Option.some.inj found] at application
          cases application
      | succ i =>
          cases waiting : client.waiting with
          | nil => simp [waiting] at found
          | cons first rest => rw [waiting] at head; exact head
  | acquire =>
      simp only [step] at taken
      split at taken
      · rename_i first
        exact Option.some.inj taken ▸ effect_acquire first
      · cases taken
  | sent =>
      obtain ⟨⟨w, sender⟩, _, rfl⟩ := Option.map_eq_some_iff.mp taken
      have quiet : Quiet config { client with holder := none } (sent config sender { client with holder := none }) :=
        quiet_sent
      have shrinks : Shrinks config { client with holder := none } (sent config sender { client with holder := none }) :=
        shrinks_sent
      exact .quiet shrinks ⟨quiet.written, quiet.sockets, quiet.ws⟩
  | failed =>
      obtain ⟨⟨w, sender⟩, _, taken⟩ := Option.bind_eq_some_iff.mp taken
      dsimp only at taken
      split at taken
      · rename_i code _
        rw [← Option.some.inj taken]
        have quiet : Quiet config { client with holder := none }
            (raises config (some code) { client with holder := none } sender.task) := quiet_raises _ fun _ => id
        have shrinks : Shrinks config { client with holder := none }
            (raises config (some code) { client with holder := none } sender.task) := shrinks_raises _ _
        exact .quiet shrinks ⟨quiet.written, quiet.sockets, quiet.ws⟩
      · cases taken
  | connected =>
      simp only [step] at taken
      split at taken
      · rename_i connecting
        rw [← Option.some.inj taken]
        have opens : Shrinks config client { client with
            sockets := client.sockets ++ [.opened], ws := some client.sockets.length, connection := .authenticating } :=
          shrinks_of_sublist rfl rfl (List.Sublist.refl _) (queued_sublist rfl rfl)
        refine .connected (opens.trans (shrinks_join rfl)) rfl ?_ rfl List.length_append
        rw [RealtimeClient.connected, join, show client.waiting = [] from undisturbed]
        rfl
      · cases taken
  | connectFailed caught =>
      simp only [step] at taken
      split at taken
      · rw [← Option.some.inj taken]
        split
        · exact .quiet (shrinks_lost none) (quiet_gone rfl rfl rfl)
        · exact .quiet shrinks_aborted (quiet_gone rfl rfl rfl)
      · cases taken
  | closes w code =>
      obtain ⟨_, same⟩ := Option.ite_none_right_eq_some.mp taken
      rw [← Option.some.inj same]
      exact effect_of_eq rfl rfl rfl rfl rfl rfl List.length_set
  | ended =>
      simp only [step] at taken
      split at taken
      · exact Option.some.inj taken ▸ .quiet (shrinks_lost _) (quiet_gone rfl rfl rfl)
      · cases taken
  | handlerRaised =>
      simp only [step] at taken
      split at taken
      · exact Option.some.inj taken ▸ .quiet shrinks_aborted (quiet_gone rfl rfl rfl)
      · cases taken
  | wake =>
      simp only [step] at taken
      split at taken
      · rw [← Option.some.inj taken]
        exact .quiet (shrinks_of_sublist rfl rfl (List.Sublist.refl _) (queued_sublist rfl rfl))
          (quiet_kept rfl rfl rfl List.prefix_rfl)
      · cases taken
  | beat =>
      obtain ⟨w, _, taken⟩ := Option.bind_eq_some_iff.mp taken
      obtain ⟨_, same⟩ := Option.ite_none_left_eq_some.mp taken
      exact Option.some.inj same ▸ .quiet (shrinks_join rfl) quiet_join

structure Greeted (config : ClientConfig) (client : RealtimeClient) : Prop where
  auth : AuthFirst config client
  fresh : ∀ w, client.ws = some w → client.written.find? (·.1 = w) = none →
    client.waiting.head? = some (authSender config)
  known : ∀ sent ∈ client.written, sent.1 < client.sockets.length
  current : ∀ w, client.ws = some w → w < client.sockets.length

theorem in_line_step (inLine : InLine config client) (effect : Effect config client client') :
    InLine config client' := by
  cases effect with
  | quiet shrinks _ | wrote shrinks _ _ _ _ _ | connected shrinks _ _ _ _ => exact in_line_of_shrinks inLine shrinks
  | called lengthens _ => exact in_line_of_lengthens inLine lengthens

theorem greeted_quiet (greeted : Greeted config client) (quiet : Quiet config client client') :
    Greeted config client' := by
  have same : client'.ws = none ∨ client'.ws = client.ws := quiet.ws.imp_right And.left
  refine ⟨fun w sent found => ?_, fun w current none => ?_, fun sent member => ?_, fun w current => ?_⟩
  · rw [quiet.written] at found
    exact greeted.auth w sent found
  · rw [quiet.written] at none
    rcases quiet.ws with gone | ⟨ws, stays⟩
    · rw [gone] at current
      cases current
    · exact stays (greeted.fresh w (ws ▸ current) none)
  · rw [quiet.written] at member
    exact Nat.lt_of_lt_of_le (greeted.known sent member) quiet.sockets
  · rcases same with gone | ws
    · rw [gone] at current
      cases current
    · exact Nat.lt_of_lt_of_le (greeted.current w (ws ▸ current)) quiet.sockets

theorem greeted_step (greeted : Greeted config client) (effect : Effect config client client') :
    Greeted config client' := by
  cases effect with
  | quiet _ quiet | called _ quiet => exact greeted_quiet greeted quiet
  | @wrote w sender _ current first written ws sockets =>
      have last : client'.written.find? (·.1 = w) ≠ none := by simp [written]
      refine ⟨fun v sent found => ?_, fun v now none => ?_, fun sent member => ?_, fun v now => ?_⟩
      · rw [written, List.find?_append] at found
        cases before : client.written.find? (·.1 = v) with
        | some old =>
            rw [before] at found
            exact greeted.auth v sent (before.trans found)
        | none =>
            rw [before, Option.none_or, List.find?_singleton] at found
            obtain ⟨own, same⟩ := Option.ite_none_right_eq_some.mp found
            obtain rfl : w = v := of_decide_eq_true own
            -- Without a frame on the connection the first of the line is AUTH.
            have auth := first.symm.trans (greeted.fresh w current before)
            rw [← Option.some.inj same, ← Option.some.inj auth]
      · rw [ws, current] at now
        exact absurd (Option.some.inj now ▸ none) last
      · rw [written, List.mem_append, List.mem_singleton] at member
        rw [sockets]
        rcases member with old | rfl
        · exact greeted.known sent old
        · exact greeted.current w current
      · rw [sockets]
        exact greeted.current v (ws ▸ now)
  | connected _ written waiting ws sockets =>
      refine ⟨fun w sent found => ?_, fun _ _ _ => by rw [waiting]; rfl, fun sent member => ?_, fun w now => ?_⟩
      · rw [written] at found
        exact greeted.auth w sent found
      · rw [written] at member
        rw [sockets]
        exact Nat.lt_succ_of_lt (greeted.known sent member)
      · rw [ws] at now
        rw [sockets, ← Option.some.inj now]
        exact Nat.lt_succ_self _

theorem in_line_start : InLine config {} := ⟨List.Pairwise.nil, nofun⟩

theorem greeted_start : Greeted config {} := ⟨nofun, nofun, nofun, nofun⟩

end

/-- In a run in which no call is made on a connection while earlier ones are queued, and no task waits for
the lock when a connection is made, the frames of the calls are in order and AUTH is first in every state. -/
theorem keeps_order (config : ClientConfig) (es : List Event)
    (undisturbed : (step config).Meets Undisturbed {} es) :
    (step config).Throughout (fun client => InCallOrder config client ∧ AuthFirst config client) {} es := by
  refine Step.throughout_of_meets (I := fun client => InLine config client ∧ Greeted config client) ?_
    (fun _ held => ⟨in_call_order held.1, held.2.auth⟩) ⟨in_line_start, greeted_start⟩ undisturbed
  intro client e client' held now taken
  have effect := effect_step now taken
  exact ⟨in_line_step held.1 effect, greeted_step held.2 effect⟩

def sample : ClientConfig := ⟨List.Vector.replicate 16 0, "t", true⟩

def overtaking : List Event :=
  [.connect, .publish "room" "first", .connected, .acquire, .publish "room" "second", .sent, .acquire, .sent,
    .acquire]

theorem second_first : ∃ client, (step sample).run {} overtaking = some client ∧
    numbers client = [1, 0] ∧ ¬InCallOrder sample client := by
  refine ⟨_, rfl, rfl, fun ordered => ?_⟩
  have descends : [1, 0].Pairwise (· < ·) := ordered.written
  exact absurd descends (by decide)

def waited : List Event :=
  [.connect, .publish "room" "first", .connected, .acquire, .sent, .acquire, .publish "room" "second", .sent,
    .acquire]

theorem keeps_order_waited : ((step sample).run {} waited).isSome ∧
    (step sample).Throughout (fun client => InCallOrder sample client ∧ AuthFirst sample client) {} waited := by
  refine ⟨rfl, keeps_order sample waited ?_⟩
  refine Step.meets_cons trivial rfl (Step.meets_cons (Or.inl rfl) rfl (Step.meets_cons rfl rfl ?_))
  refine Step.meets_cons trivial rfl (Step.meets_cons trivial rfl (Step.meets_cons trivial rfl ?_))
  exact Step.meets_cons (Or.inr rfl) rfl (Step.meets_cons trivial rfl (Step.meets_cons trivial rfl trivial))

end RealtimePlatform.Proof.PythonOrder
