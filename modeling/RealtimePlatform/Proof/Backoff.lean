import Mathlib.Algebra.Order.Field.Rat
import Mathlib.Algebra.Order.Ring.NNRat
import RealtimePlatform.Proof.OneSocket

namespace RealtimePlatform.Proof.Backoff
open Library Sdk Sdk.Link OneSocket Utf16

structure BackoffConfig where
  reconnectBaseDelayMs : ℚ≥0 := 500
  reconnectMaxDelayMs : ℚ≥0 := 15000

abbrev Random := { r : ℚ≥0 // r < 1 }

namespace BackoffConfig

def delay (reconnectAttempt : Nat) (backoff : BackoffConfig) : ℚ≥0 :=
  min (backoff.reconnectBaseDelayMs * 2 ^ reconnectAttempt) backoff.reconnectMaxDelayMs

def jitter (reconnectAttempt : Nat) (random : Random) (backoff : BackoffConfig) : ℚ≥0 :=
  backoff.delay reconnectAttempt * (8 / 10 + random.1 * (4 / 10))

theorem delay_mono (backoff : BackoffConfig) : Monotone backoff.delay := by
  intro m n less
  refine min_le_min_right _ ?_
  gcongr
  exact one_le_two

theorem delay_le_jitter {m n : Nat} (less : m ≤ n) (random : Random) (backoff : BackoffConfig) :
    8 / 10 * backoff.delay m ≤ backoff.jitter n random := by
  calc 8 / 10 * backoff.delay m ≤ 8 / 10 * backoff.delay n := by gcongr; exact backoff.delay_mono less
    _ = backoff.delay n * (8 / 10) := mul_comm _ _
    _ ≤ backoff.delay n * (8 / 10 + random.1 * (4 / 10)) := by gcongr; exact le_self_add

end BackoffConfig

structure Reconnection where
  failures : Nat
  reconnectAttempt : Nat
  delay : ℚ≥0

/-- A client with the attempts that have failed in a row, since `connect` or the last AUTH that was accepted,
whether the last attempt to end had opened its socket, and the reconnections. -/
structure Attempts (η : Type*) where
  link : Link η
  failures : Nat := 0
  hadOpened : Bool := false
  reconnections : List Reconnection := []

namespace Attempts
variable {η : Type*}

def failuresAfter (attempts : Attempts η) : LinkEvent η → Nat
  | .connect | .judged _ true => 0
  | .fetched none => attempts.failures + 1
  | .onClose w _ =>
    if (attempts.link.sockets[w]?.bind (·.accepted)) = some true then attempts.failures else attempts.failures + 1
  | _ => attempts.failures

def hadOpenedAfter (attempts : Attempts η) : LinkEvent η → Bool
  | .fetched none => false
  | .onClose w _ => attempts.link.sockets[w]?.any fun socket => !socket.frames.isEmpty
  | _ => attempts.hadOpened

def scheduled (config : RealtimeClientConfig) (backoff : BackoffConfig) (random : Random) (attempts : Attempts η) :
    LinkEvent η → List Reconnection
  | .emitted =>
    if !attempts.link.closedByUser && config.reconnect then
      [{ failures := attempts.failures
         reconnectAttempt := attempts.link.reconnectAttempt
         delay := backoff.jitter attempts.link.reconnectAttempt random }]
    else []
  | _ => []

instance (link : Link η) : Decidable (AtRest link) :=
  decidable_of_iff (link.fetching = 0 ∧ link.resolving = 0 ∧ link.timers = [] ∧ link.emitting = none ∧
      ∀ socket ∈ link.sockets, socket.readyState = .closed)
    ⟨fun ⟨fetching, resolving, timers, emitting, sockets⟩ => ⟨fetching, resolving, timers, emitting, sockets⟩,
      fun rest => ⟨rest.fetching, rest.resolving, rest.timers, rest.emitting, rest.sockets⟩⟩

instance (link : Link η) : (e : LinkEvent η) → Decidable (Rested link e)
  | .connect => inferInstanceAs (Decidable (AtRest link))
  | .disconnect | .subscribe _ _ | .unsubscribe _ _ | .publish _ _ _ | .unicast _ _ _ | .replay _ _ | .fetched _
  | .resolved _ | .emitted | .timer _ | .beat | .onOpen _ | .onMessage _ _ | .onError _ | .onClose _ _
  | .judged _ _ => isTrue trivial

variable [DecidableEq η] (config : RealtimeClientConfig) (backoff : BackoffConfig)

def initial : Attempts η := { link := Link.initial config }

/-- The attempts come one after another: `connect` is called at rest. -/
def step : Step (Attempts η) (LinkEvent η × Random)
  | attempts, (e, random) =>
    if Rested attempts.link e then
      (Link.step config attempts.link e).map fun link =>
        { link
          failures := attempts.failuresAfter e
          hadOpened := attempts.hadOpenedAfter e
          reconnections := attempts.reconnections ++ attempts.scheduled config backoff random e }
    else none

end Attempts

structure Grows (backoff : BackoffConfig) (reconnection : Reconnection) : Prop where
  grown : 8 / 10 * min (backoff.reconnectBaseDelayMs * 2 ^ (reconnection.failures - 1)) backoff.reconnectMaxDelayMs ≤
    reconnection.delay
  returns : reconnection.reconnectAttempt = 0 → reconnection.failures ≤ 1

/-- A reconnection is scheduled after an attempt that had opened its socket only if that is the only one that has
failed since `connect` or the last AUTH that was accepted. -/
def FailsUnopened {η : Type*} (config : RealtimeClientConfig) (attempts : Attempts η) : LinkEvent η × Random → Prop
  | (.emitted, _) => attempts.link.closedByUser = false → config.reconnect = true → attempts.hadOpened = true →
      attempts.failures ≤ 1
  | _ => True

section
variable {η : Type*} {config : RealtimeClientConfig} {link link' : Link η}

def Waiting (link : Link η) : Prop :=
  0 < link.fetching + link.resolving + link.timers.length ∨
    ∃ (w : Nat) (socket : Socket), link.sockets[w]? = some socket ∧ socket.readyState ≠ .closed ∧ socket.frames = []

def Begun (link : Link η) : Prop :=
  ∃ (w : Nat) (socket : Socket), link.sockets[w]? = some socket ∧ socket.readyState ≠ .closed ∧ socket.frames ≠ []

structure Still (link link' : Link η) : Prop where
  reconnectAttempt : link'.reconnectAttempt = link.reconnectAttempt
  emitting : link'.emitting = link.emitting
  waiting : Waiting link' → Waiting link
  begun : Begun link' → Begun link

theorem Still.trans {link₁ link₂ link₃ : Link η} (first : Still link₁ link₂) (second : Still link₂ link₃) :
    Still link₁ link₃ :=
  ⟨second.reconnectAttempt.trans first.reconnectAttempt, second.emitting.trans first.emitting,
    fun now => first.waiting (second.waiting now), fun now => first.begun (second.begun now)⟩

theorem still_of_pending (reconnectAttempt : link'.reconnectAttempt = link.reconnectAttempt)
    (emitting : link'.emitting = link.emitting) (sockets : link'.sockets = link.sockets)
    (pending : 0 < link'.fetching + link'.resolving + link'.timers.length →
      0 < link.fetching + link.resolving + link.timers.length) : Still link link' := by
  refine ⟨reconnectAttempt, emitting, Or.imp pending fun unopened => ?_, fun begun => ?_⟩
  · rwa [sockets] at unopened
  · rwa [Begun, sockets] at begun

theorem still_refl (link : Link η) : Still link link := ⟨rfl, rfl, id, id⟩

theorem still_modify {w : Nat} {f : Socket → Socket} (reconnectAttempt : link'.reconnectAttempt = link.reconnectAttempt)
    (emitting : link'.emitting = link.emitting) (sockets : link'.sockets = link.sockets.modify w f)
    (pending : link'.fetching + link'.resolving + link'.timers.length ≤
      link.fetching + link.resolving + link.timers.length)
    (unclosed : ∀ socket, link.sockets[w]? = some socket → (f socket).readyState ≠ .closed → socket.readyState ≠ .closed)
    (frames : ∀ socket, link.sockets[w]? = some socket → (f socket).readyState ≠ .closed →
      ((f socket).frames = [] ↔ socket.frames = [])) : Still link link' := by
  have comes : ∀ (v : Nat) (socket' : Socket), link'.sockets[v]? = some socket' → socket'.readyState ≠ .closed →
      ∃ socket, link.sockets[v]? = some socket ∧ socket.readyState ≠ .closed ∧
        (socket'.frames = [] ↔ socket.frames = []) := by
    intro v socket' found open_
    rw [sockets] at found
    obtain ⟨socket, there, ⟨rfl, rfl⟩ | ⟨_, rfl⟩⟩ := modify_cases found
    · exact ⟨socket, there, unclosed socket there open_, frames socket there open_⟩
    · exact ⟨socket', there, open_, Iff.rfl⟩
  refine ⟨reconnectAttempt, emitting, ?_, ?_⟩
  · rintro (under | ⟨v, socket', found, open_, none⟩)
    · exact Or.inl (lt_of_lt_of_le under pending)
    · obtain ⟨socket, there, unclosed, same⟩ := comes v socket' found open_
      exact Or.inr ⟨v, socket, there, unclosed, same.mp none⟩
  · rintro ⟨v, socket', found, open_, some⟩
    obtain ⟨socket, there, unclosed, same⟩ := comes v socket' found open_
    exact ⟨v, socket, there, unclosed, fun none => some (same.mpr none)⟩

theorem still_write (alone : Alone config link) {frames : List FrameFields} (ready : frames = [] ∨ link.isOpen = true) :
    Still link (write frames [] link) := by
  cases current : link.ws with
  | none =>
      rw [write_of_none current]
      exact still_refl link
  | some w =>
      rw [write_of_ws current]
      refine still_modify rfl rfl rfl le_rfl (fun _ _ => id) fun socket there _ => ?_
      rcases ready with rfl | opened
      · rw [put, List.append_nil]
      · obtain ⟨v, other, now, found, opened⟩ := isOpen_iff.mp opened
        obtain rfl := Option.some.inj (current.symm.trans now)
        obtain rfl := Option.some.inj (there.symm.trans found)
        have greeted := (alone.greeted w socket there).opened opened
        exact iff_of_false (List.append_ne_nil_of_left_ne_nil greeted _) greeted

theorem still_registered (alone : Alone config link) (subscriptions : Subscriptions η) {frames : List FrameFields}
    (ready : frames = [] ∨ link.isOpen = true) : Still link (write frames [] { link with subscriptions }) := by
  have same : Alone config { link with subscriptions } := alone_of_eq alone rfl rfl rfl rfl rfl rfl
  have left : Still link { link with subscriptions } := still_of_pending rfl rfl rfl id
  exact left.trans (still_write same ready)

theorem still_call (alone : Alone config link) (opcode : Backend.Opcode) (channelId payload : Utf16) :
    Still link (sendOrQueue config opcode channelId payload link) := by
  unfold sendOrQueue
  split
  · rename_i opened
    exact still_write alone (Or.inr opened)
  · exact still_of_pending rfl rfl rfl id

theorem still_sendChunks (alone : Alone config link) (opcode : Backend.Opcode) (rolls : List.Vector (Fin 36) 4)
    (channelId payload : Utf16) : Still link (sendChunks config opcode rolls channelId payload link) := by
  unfold sendChunks
  split
  · exact still_refl link
  · rename_i chunks cut
    clear cut
    induction chunks generalizing link with
    | nil => exact still_refl link
    | cons chunk chunks ih =>
        exact (still_call alone opcode channelId chunk).trans (ih (alone_call alone opcode channelId chunk))

theorem still_disconnect : Still link (disconnect link) := by
  have fewer : (disconnect link).timers.length ≤ link.timers.length := by
    show link.clearReconnect.length ≤ _
    unfold clearReconnect
    split
    · exact List.length_erase_le
    · exact le_rfl
  have pending : (disconnect link).fetching + (disconnect link).resolving + (disconnect link).timers.length ≤
      link.fetching + link.resolving + link.timers.length := Nat.add_le_add_left fewer _
  cases current : link.ws with
  | none =>
      have sockets : (disconnect link).sockets = link.sockets := by rw [disconnect, current]
      exact still_of_pending rfl rfl sockets fun under => lt_of_lt_of_le under pending
  | some w =>
      have sockets : (disconnect link).sockets = link.sockets.modify w leave := by rw [disconnect, current]
      refine still_modify rfl rfl sockets pending (fun socket _ => ?_) fun socket _ _ => ?_
      · rw [leave]
        split
        · exact id
        · exact fun _ => ‹_›
      · rw [leave]
        split <;> rfl

theorem still_resolved (found : Bool) {resolving : Nat} (under : link.resolving = resolving + 1) :
    Still link (resolved found { link with resolving, wsImpl := some found }) := by
  have waits : Waiting link := Or.inl (by omega)
  unfold resolved
  split
  · exact ⟨rfl, rfl, fun _ => waits, id⟩
  · split
    · exact ⟨rfl, rfl, fun _ => waits, id⟩
    · exact ⟨rfl, rfl, fun _ => waits, id⟩
    · refine ⟨rfl, rfl, fun _ => waits, ?_⟩
      rintro ⟨w, socket, there, unclosed, framed⟩
      rcases append_cases there with old | ⟨_, rfl⟩
      · exact ⟨w, socket, old, unclosed, framed⟩
      · exact absurd rfl framed

theorem still_openSocket (reconnectAttempt : link'.reconnectAttempt = link.reconnectAttempt)
    (emitting : link'.emitting = link.emitting) (sockets : link'.sockets = link.sockets)
    (pending : 0 < link.fetching + link.resolving + link.timers.length) : Still link (openSocket config link') := by
  unfold openSocket
  split <;> exact still_of_pending reconnectAttempt emitting sockets fun _ => pending

end

section
variable {η : Type*} {config : RealtimeClientConfig} {backoff : BackoffConfig} {attempts attempts' : Attempts η}

def Law (backoff : BackoffConfig) (attempts : Attempts η) : Prop :=
  ∀ reconnection ∈ attempts.reconnections, Grows backoff reconnection

structure Counted (config : RealtimeClientConfig) (backoff : BackoffConfig) (attempts : Attempts η) : Prop where
  alone : Alone config attempts.link
  begun : Begun attempts.link → attempts.link.reconnectAttempt = 0
  opened : attempts.link.emitting ≠ none → attempts.hadOpened = true → attempts.link.reconnectAttempt = 0
  waiting : Law backoff attempts → Waiting attempts.link → attempts.failures ≤ attempts.link.reconnectAttempt
  unopened : Law backoff attempts → attempts.link.emitting ≠ none → attempts.hadOpened = false →
    attempts.failures ≤ attempts.link.reconnectAttempt + 1

theorem counted_still (counted : Counted config backoff attempts) (alone : Alone config attempts'.link)
    (still : Still attempts.link attempts'.link) (failures : attempts'.failures ≤ attempts.failures)
    (hadOpened : attempts'.hadOpened = attempts.hadOpened)
    (reconnections : attempts'.reconnections = attempts.reconnections) : Counted config backoff attempts' := by
  refine ⟨alone, fun begun => ?_, fun emitting opened => ?_, fun law waiting => ?_, fun law emitting unopened => ?_⟩
  · exact still.reconnectAttempt.trans (counted.begun (still.begun begun))
  · exact still.reconnectAttempt.trans (counted.opened (still.emitting ▸ emitting) (hadOpened ▸ opened))
  · rw [still.reconnectAttempt]
    rw [Law, reconnections] at law
    exact failures.trans (counted.waiting law (still.waiting waiting))
  · rw [still.reconnectAttempt]
    rw [Law, reconnections] at law
    exact failures.trans (counted.unopened law (still.emitting ▸ emitting) (hadOpened ▸ unopened))

theorem counted_ended (alone : Alone config attempts'.link) (under : ¬Waiting attempts'.link)
    (unbegun : ¬Begun attempts'.link)
    (opened : attempts'.link.emitting ≠ none → attempts'.hadOpened = true → attempts'.link.reconnectAttempt = 0)
    (unopened : Law backoff attempts' → attempts'.link.emitting ≠ none → attempts'.hadOpened = false →
      attempts'.failures ≤ attempts'.link.reconnectAttempt + 1) : Counted config backoff attempts' :=
  ⟨alone, fun begun => absurd begun unbegun, opened, fun _ waiting => absurd waiting under, unopened⟩

theorem idle_of_closed {link : Link η}
    (closed : ∀ (w : Nat) (socket : Socket), link.sockets[w]? = some socket → socket.readyState = .closed)
    (rests : link.fetching + link.resolving + link.timers.length = 0) : ¬Waiting link ∧ ¬Begun link := by
  constructor
  · rintro (under | ⟨w, socket, found, unclosed, _⟩)
    · omega
    · exact unclosed (closed w socket found)
  · rintro ⟨w, socket, found, unclosed, _⟩
    exact unclosed (closed w socket found)

theorem idle_of_emitting {link : Link η} (alone : Alone config link) (emitting : link.emitting ≠ none) :
    ¬Waiting link ∧ ¬Begun link := by
  obtain ⟨stale, origin⟩ := Option.ne_none_iff_exists'.mp emitting
  have one := alone.busy
  rw [OneSocket.busy, origin, Option.elim_some] at one
  have closed := closed_of_busy alone (by rw [OneSocket.busy, origin, Option.elim_some]; omega)
  exact idle_of_closed closed (by omega)

theorem counted_onClose {w code : Nat} {socket : Socket} (counted : Counted config backoff attempts)
    (found : attempts.link.sockets[w]? = some socket) (unclosed : socket.readyState ≠ .closed)
    (link : attempts'.link = onClose config w code attempts.link)
    (failures : attempts'.failures ≤ attempts.failures + 1)
    (hadOpened : attempts'.hadOpened = !socket.frames.isEmpty)
    (reconnections : attempts'.reconnections = attempts.reconnections) : Counted config backoff attempts' := by
  have alone' : Alone config attempts'.link := link ▸ alone_onClose counted.alone found unclosed
  have counter : attempts'.link.reconnectAttempt = attempts.link.reconnectAttempt := by
    rw [link]
    rfl
  have closed : ∀ (v : Nat) (socket' : Socket), attempts'.link.sockets[v]? = some socket' →
      socket'.readyState = .closed := by
    intro v socket' there
    rw [link] at there
    obtain ⟨other, before, ⟨_, rfl⟩ | ⟨different, rfl⟩⟩ := modify_cases there
    · rfl
    · by_contra still
      have one := (counted.alone.last w socket found unclosed).1
      have two := (counted.alone.last v socket' before still).1
      omega
  have rests : attempts'.link.fetching + attempts'.link.resolving + attempts'.link.timers.length = 0 := by
    have idle := (counted.alone.last w socket found unclosed).2
    rw [OneSocket.busy] at idle
    rw [link]
    dsimp only [onClose, setReadyState]
    omega
  obtain ⟨quiet, unbegun⟩ := idle_of_closed closed rests
  refine counted_ended alone' quiet unbegun ?_ ?_
  · intro _ opened
    rw [hadOpened, Bool.not_eq_true', List.isEmpty_eq_false_iff] at opened
    exact counter.trans (counted.begun ⟨w, socket, found, unclosed, opened⟩)
  · intro law _ unopened
    rw [hadOpened, Bool.not_eq_false', List.isEmpty_iff] at unopened
    rw [Law, reconnections] at law
    have before := counted.waiting law (Or.inr ⟨w, socket, found, unclosed, unopened⟩)
    rw [counter]
    omega

theorem grows_iff (counted : Counted config backoff attempts) (law : Law backoff attempts) (random : Random)
    (emitting : attempts.link.emitting ≠ none) :
    (attempts.hadOpened = true → attempts.failures ≤ 1) ↔
      Grows backoff ⟨attempts.failures, attempts.link.reconnectAttempt,
        backoff.jitter attempts.link.reconnectAttempt random⟩ := by
  cases had : attempts.hadOpened with
  | true =>
      have zero := counted.opened emitting had
      constructor
      · intro first
        refine ⟨BackoffConfig.delay_le_jitter ?_ random backoff, fun _ => first rfl⟩
        have one := first rfl
        dsimp only
        omega
      · exact fun grows _ => grows.returns zero
  | false =>
      have counts := counted.unopened law emitting had
      refine iff_of_true (by simp) ⟨BackoffConfig.delay_le_jitter ?_ random backoff, fun zero => ?_⟩
      all_goals
        dsimp only at *
        omega

variable [DecidableEq η]

theorem counted_onOpen {w : Nat} {socket : Socket} (alone : Alone config attempts.link)
    (found : attempts.link.sockets[w]? = some socket) (connecting : socket.readyState = .connecting)
    (link : attempts'.link = onOpen config w socket.token attempts.link) (emitting : attempts.link.emitting = none) :
    Counted config backoff attempts' := by
  have alone' : Alone config attempts'.link := link ▸ alone_onOpen alone found connecting
  have current : attempts.link.ws = some w := (alone.current w).mpr ⟨socket, found, Or.inl connecting⟩
  have now : (opened w attempts.link).ws = some w := current
  have greeted : attempts'.link = greet config socket.token (opened w attempts.link) := by
    rw [link, onOpen, if_pos (isOpen_opened found current)]
  have quiet : attempts'.link.emitting = none ∧ attempts'.link.reconnectAttempt = 0 := by
    rw [greeted, greet, write_of_ws now]
    exact ⟨emitting, rfl⟩
  have there : ∃ socket', attempts'.link.sockets[w]? = some socket' ∧ socket'.readyState = .opened := by
    rw [greeted, greet, write_of_ws now]
    dsimp only [opened, setReadyState]
    rw [List.getElem?_modify_eq, List.getElem?_modify_eq, found]
    exact ⟨_, rfl, rfl⟩
  obtain ⟨socket', there, open_⟩ := there
  have unclosed : socket'.readyState ≠ .closed := by
    rw [open_]
    simp
  refine ⟨alone', fun _ => quiet.2, fun emits => absurd quiet.1 emits, fun _ waiting => ?_, fun _ emits => absurd quiet.1 emits⟩
  rcases waiting with under | ⟨v, other, before, still, unsent⟩
  · have idle := (alone'.last w socket' there unclosed).2
    rw [OneSocket.busy] at idle
    omega
  · have one := (alone'.last w socket' there unclosed).1
    have two := (alone'.last v other before still).1
    obtain rfl : v = w := by omega
    obtain rfl := Option.some.inj (there.symm.trans before)
    exact absurd unsent ((alone'.greeted v socket' there).opened open_)

omit [DecidableEq η] in
theorem counted_emitted {random : Random} (counted : Counted config backoff attempts)
    (emitting : attempts.link.emitting.isSome = true)
    (link : attempts'.link = emitted config { attempts.link with emitting := none })
    (failures : attempts'.failures = attempts.failures)
    (reconnections : attempts'.reconnections =
      attempts.reconnections ++ attempts.scheduled config backoff random .emitted) :
    Counted config backoff attempts' ∧
      (Law backoff attempts → (FailsUnopened config attempts (.emitted, random) ↔ Law backoff attempts')) := by
  have alone' : Alone config attempts'.link := link ▸ alone_emitted counted.alone emitting
  have emits : attempts.link.emitting ≠ none := Option.isSome_iff_ne_none.mp emitting
  obtain ⟨quiet, unbegun⟩ := idle_of_emitting counted.alone emits
  rw [emitted] at link
  rw [Attempts.scheduled] at reconnections
  cases again : !attempts.link.closedByUser && config.reconnect with
  | false =>
      rw [if_neg (by rw [again]; simp)] at link
      rw [again, if_neg Bool.false_ne_true, List.append_nil] at reconnections
      constructor
      · refine counted_ended alone' (link ▸ quiet) (link ▸ unbegun) ?_ ?_
        · exact fun emits => absurd (link ▸ rfl) emits
        · exact fun _ emits => absurd (link ▸ rfl) emits
      · intro law
        refine iff_of_true (fun user again' => ?_) (by rwa [Law, reconnections])
        rw [user, again'] at again
        cases again
  | true =>
      rw [if_pos again] at link
      rw [again, if_pos rfl] at reconnections
      have appended : Law backoff attempts' ↔ Law backoff attempts ∧ Grows backoff ⟨attempts.failures,
          attempts.link.reconnectAttempt, backoff.jitter attempts.link.reconnectAttempt random⟩ := by
        rw [Law, reconnections, List.forall_mem_append, List.forall_mem_singleton]
        rfl
      have exact := fun law => grows_iff counted law random emits
      constructor
      · refine ⟨alone', ?_, ?_, fun law _ => ?_, ?_⟩
        · rw [link]
          exact fun begun => absurd begun unbegun
        · exact fun emits => absurd (link ▸ rfl) emits
        · obtain ⟨before, grows⟩ := appended.mp law
          have counter : attempts'.link.reconnectAttempt = attempts.link.reconnectAttempt + 1 := by
            rw [link]
            rfl
          rw [failures, counter]
          cases had : attempts.hadOpened with
          | true => exact ((exact before).mpr grows had).trans (Nat.le_add_left 1 _)
          | false => exact counted.unopened before emits had
        · exact fun _ emits => absurd (link ▸ rfl) emits
      · intro law
        obtain ⟨user, reconnect⟩ := Bool.and_eq_true_iff.mp again
        rw [appended, ← exact law]
        exact ⟨fun free => ⟨law, free (by simpa using user) reconnect⟩, fun kept _ _ => kept.2⟩

theorem counted_callback {e : LinkEvent η} {random : Random} {link' : Link η}
    (counted : Counted config backoff attempts) (emitting : attempts.link.emitting = none) (alone : Alone config link')
    (taken : callback config attempts.link e = some link') :
    Counted config backoff ⟨link', attempts.failuresAfter e, attempts.hadOpenedAfter e,
      attempts.reconnections ++ attempts.scheduled config backoff random e⟩ := by
  cases e with
  | fetched fresh =>
      simp only [callback] at taken
      split at taken
      · cases taken
      · rename_i fetching under
        rw [← Option.some.inj taken] at alone ⊢
        have pending : 0 < attempts.link.fetching + attempts.link.resolving + attempts.link.timers.length := by omega
        have waits : Waiting attempts.link := Or.inl pending
        cases fresh with
        | none =>
            obtain ⟨quiet, unbegun⟩ := idle_of_emitting alone (Option.some_ne_none _)
            refine counted_ended alone quiet unbegun (fun _ had => absurd had Bool.false_ne_true) fun law _ _ => ?_
            have before : Law backoff attempts := fun reconnection member => law reconnection (List.mem_append_left _ member)
            exact Nat.succ_le_succ (counted.waiting before waits)
        | some token =>
            refine counted_still counted alone ?_ le_rfl rfl (List.append_nil _)
            unfold fetched
            dsimp only
            split <;> exact still_of_pending rfl rfl rfl fun _ => pending
  | resolved found =>
      simp only [callback] at taken
      split at taken
      · cases taken
      · rename_i resolving under
        obtain ⟨_, same⟩ := Option.ite_none_left_eq_some.mp taken
        rw [← Option.some.inj same] at alone ⊢
        exact counted_still counted alone (still_resolved found under) le_rfl rfl (List.append_nil _)
  | timer id =>
      obtain ⟨scheduled, same⟩ := Option.ite_none_right_eq_some.mp taken
      rw [← Option.some.inj same] at alone ⊢
      have scheduledOne := List.length_pos_of_mem scheduled
      have pending : 0 < attempts.link.fetching + attempts.link.resolving + attempts.link.timers.length := by omega
      refine counted_still counted alone ?_ le_rfl rfl (List.append_nil _)
      dsimp only
      split
      · exact still_of_pending rfl rfl rfl fun _ => pending
      · exact still_openSocket rfl rfl rfl pending
  | beat =>
      obtain ⟨_, same⟩ := Option.ite_none_right_eq_some.mp taken
      rw [← Option.some.inj same] at alone ⊢
      refine counted_still counted alone ?_ le_rfl rfl (List.append_nil _)
      rw [beat]
      split
      · exact still_write counted.alone (Or.inr ‹_›)
      · exact still_refl _
  | onOpen w =>
      obtain ⟨socket, found, taken⟩ := Option.bind_eq_some_iff.mp taken
      obtain ⟨connecting, same⟩ := Option.ite_none_right_eq_some.mp taken
      exact counted_onOpen counted.alone found connecting (Option.some.inj same).symm emitting
  | onMessage w arrival =>
      obtain ⟨socket, found, taken⟩ := Option.bind_eq_some_iff.mp taken
      obtain ⟨_, same⟩ := Option.ite_none_right_eq_some.mp taken
      rw [← Option.some.inj same] at alone ⊢
      exact counted_still counted alone (still_of_pending rfl rfl rfl id) le_rfl rfl (List.append_nil _)
  | onError w =>
      obtain ⟨socket, found, taken⟩ := Option.bind_eq_some_iff.mp taken
      obtain ⟨_, same⟩ := Option.ite_none_right_eq_some.mp taken
      rw [← Option.some.inj same] at alone ⊢
      exact counted_still counted alone (still_refl _) le_rfl rfl (List.append_nil _)
  | onClose w code =>
      obtain ⟨socket, found, taken⟩ := Option.bind_eq_some_iff.mp taken
      obtain ⟨unclosed, same⟩ := Option.ite_none_right_eq_some.mp taken
      refine counted_onClose counted found unclosed (Option.some.inj same).symm ?_ ?_ (List.append_nil _)
      · rw [Attempts.failuresAfter]
        split
        · exact Nat.le_succ _
        · exact le_rfl
      · rw [Attempts.hadOpenedAfter, found, Option.any_some]
  | judged w accepted =>
      obtain ⟨socket, found, taken⟩ := Option.bind_eq_some_iff.mp taken
      obtain ⟨_, same⟩ := Option.ite_none_right_eq_some.mp taken
      rw [← Option.some.inj same] at alone ⊢
      have fewer : attempts.failuresAfter (.judged w accepted) ≤ attempts.failures := by
        cases accepted with
        | true => exact Nat.zero_le _
        | false => exact le_rfl
      refine counted_still counted alone ?_ fewer rfl (List.append_nil _)
      exact still_modify rfl rfl rfl le_rfl (fun _ _ => id) fun _ _ _ => Iff.rfl
  | _ => cases taken

omit [DecidableEq η] in
theorem scheduled_of_ne (config : RealtimeClientConfig) (backoff : BackoffConfig) (attempts : Attempts η)
    {e : LinkEvent η} (random : Random) (other : e ≠ .emitted) :
    attempts.scheduled config backoff random e = [] ∧ FailsUnopened config attempts (e, random) := by
  cases e
  case emitted => exact absurd rfl other
  all_goals exact ⟨rfl, trivial⟩

theorem counted_step {e : LinkEvent η} {random : Random} (counted : Counted config backoff attempts)
    (taken : Attempts.step config backoff attempts (e, random) = some attempts') : Counted config backoff attempts' ∧
      (Law backoff attempts → (FailsUnopened config attempts (e, random) ↔ Law backoff attempts')) := by
  obtain ⟨rested, taken⟩ := Option.ite_none_right_eq_some.mp taken
  obtain ⟨link, stepped, rfl⟩ := Option.map_eq_some_iff.mp taken
  have alone := alone_step counted.alone rested stepped
  have silent : e ≠ .emitted → Law backoff attempts → (FailsUnopened config attempts (e, random) ↔
      Law backoff ⟨link, attempts.failuresAfter e, attempts.hadOpenedAfter e,
        attempts.reconnections ++ attempts.scheduled config backoff random e⟩) := by
    intro other law
    obtain ⟨nothing, free⟩ := scheduled_of_ne config backoff attempts random other
    refine iff_of_true free ?_
    rwa [Law, nothing, List.append_nil]
  cases e with
  | emitted =>
      obtain ⟨emitting, same⟩ := Option.ite_none_right_eq_some.mp stepped
      exact counted_emitted counted emitting (Option.some.inj same).symm rfl rfl
  | connect =>
      refine ⟨?_, silent (by simp)⟩
      rw [← Option.some.inj stepped] at alone ⊢
      have closed := closed_of_atRest rested
      have quiet : (connect config attempts.link).emitting = none ∧
          (connect config attempts.link).sockets = attempts.link.sockets := by
        rw [connect, openSocket]
        split <;> exact ⟨rested.emitting, rfl⟩
      refine ⟨alone, ?_, fun emits => absurd quiet.1 emits, fun _ _ => Nat.zero_le _, fun _ emits => absurd quiet.1 emits⟩
      rintro ⟨w, socket, found, unclosed, _⟩
      rw [quiet.2] at found
      exact absurd (closed w socket found) unclosed
  | disconnect =>
      refine ⟨?_, silent (by simp)⟩
      rw [← Option.some.inj stepped] at alone ⊢
      exact counted_still counted alone still_disconnect le_rfl rfl (List.append_nil _)
  | subscribe channelId handler =>
      refine ⟨counted_still counted alone ?_ le_rfl rfl (List.append_nil _), silent (by simp)⟩
      rw [← Option.some.inj stepped]
      refine still_registered counted.alone (attempts.link.subscriptions.add channelId handler) ?_
      split
      · rename_i fresh
        exact Or.inr fresh.2
      · exact Or.inl rfl
  | unsubscribe channelId handler =>
      refine ⟨counted_still counted alone ?_ le_rfl rfl (List.append_nil _), silent (by simp)⟩
      rw [← Option.some.inj stepped]
      refine still_registered counted.alone (attempts.link.subscriptions.remove channelId handler) ?_
      split
      · rename_i gone
        exact Or.inr gone.2
      · exact Or.inl rfl
  | publish rolls channelId payload =>
      refine ⟨counted_still counted alone ?_ le_rfl rfl (List.append_nil _), silent (by simp)⟩
      exact Option.some.inj stepped ▸ still_sendChunks counted.alone .publish rolls channelId payload
  | unicast rolls userId payload =>
      refine ⟨counted_still counted alone ?_ le_rfl rfl (List.append_nil _), silent (by simp)⟩
      exact Option.some.inj stepped ▸ still_sendChunks counted.alone .unicast rolls userId payload
  | replay channelId sinceUnixSeconds =>
      refine ⟨counted_still counted alone ?_ le_rfl rfl (List.append_nil _), silent (by simp)⟩
      exact Option.some.inj stepped ▸ still_call counted.alone .replay channelId sinceUnixSeconds
  | fetched | resolved | timer | beat | onOpen | onMessage | onError | onClose | judged =>
      obtain ⟨quiet, taken⟩ := Option.ite_none_left_eq_some.mp stepped
      exact ⟨counted_callback counted (Option.not_isSome_iff_eq_none.mp quiet) alone taken, silent (by simp)⟩

omit [DecidableEq η] in
theorem counted_start : Counted config backoff (Attempts.initial config : Attempts η) := by
  refine counted_ended alone_start ?_ ?_ (fun emits => absurd rfl emits) fun _ emits => absurd rfl emits
  · rintro (under | ⟨w, socket, found, _⟩)
    · cases under
    · cases found
  · rintro ⟨w, socket, found, _⟩
    cases found

end

/-- In every run of attempts one after another, each delay is at least that of the attempts that have failed in
a row, and comes back to the base only after an AUTH that was accepted, exactly while an attempt that had opened
its socket is the first to fail. -/
theorem grows_iff_failsUnopened {η : Type*} [DecidableEq η] (config : RealtimeClientConfig) (backoff : BackoffConfig)
    (es : List (LinkEvent η × Random)) (attempts : Attempts η)
    (reached : (Attempts.step config backoff).run (Attempts.initial config) es = some attempts) :
    (Attempts.step config backoff).Meets (FailsUnopened config) (Attempts.initial config) es ↔
      (Attempts.step config backoff).Throughout (Law backoff) (Attempts.initial config) es :=
  Step.meets_iff_throughout (I := Counted config backoff) (fun _ _ _ counted taken => (counted_step counted taken).1)
    (fun _ _ _ counted law taken => (counted_step counted taken).2 law) reached counted_start (List.forall_mem_nil _)

def sample : RealtimeClientConfig := ⟨List.Vector.replicate 16 0, none, true, true, 65536⟩

def rejectedTwice : List (LinkEvent Unit × Random) :=
  [.connect, .fetched (some (ofString "t")), .resolved true, .onOpen 0, .judged 0 false, .onClose 0 4001, .emitted, .timer 0,
    .fetched (some (ofString "t")), .resolved true, .onOpen 1, .judged 1 false, .onClose 1 4001, .emitted].map
      fun e => (e, ⟨0, one_pos⟩)

theorem rejectedTwice_stays : ∃ attempts, (Attempts.step sample {}).run (Attempts.initial sample) rejectedTwice =
    some attempts ∧ attempts.reconnections.map (·.delay) = [400, 400] ∧
    attempts.reconnections.map (·.failures) = [1, 2] ∧ ¬Law {} attempts := by
  refine ⟨_, rfl, ?_, rfl, fun law => ?_⟩
  · have base : BackoffConfig.jitter 0 ⟨0, one_pos⟩ {} = 400 := by
      norm_num [BackoffConfig.jitter, BackoffConfig.delay]
    show [BackoffConfig.jitter 0 ⟨0, one_pos⟩ {}, BackoffConfig.jitter 0 ⟨0, one_pos⟩ {}] = [400, 400]
    rw [base]
  · have second := (law _ (List.mem_of_getElem? (i := 1) rfl)).returns rfl
    exact absurd second (by decide)

/-- Two attempts that fail before their socket opens, and one that is accepted and closed. -/
def unreachableTwice : List (LinkEvent Unit × Random) :=
  [.connect, .fetched (some (ofString "t")), .resolved true, .onClose 0 1006, .emitted, .timer 0,
    .fetched (some (ofString "t")), .resolved true, .onClose 1 1006, .emitted, .timer 1,
    .fetched (some (ofString "t")), .resolved true, .onOpen 2, .judged 2 true, .onClose 2 1006, .emitted].map
      fun e => (e, ⟨0, one_pos⟩)

theorem grows_iff_unreachableTwice : ∃ attempts, (Attempts.step sample {}).run (Attempts.initial sample)
    unreachableTwice = some attempts ∧ attempts.reconnections.map (·.failures) = [1, 2, 0] ∧
    (Attempts.step sample {}).Throughout (Law {}) (Attempts.initial sample) unreachableTwice := by
  refine ⟨_, rfl, rfl, (grows_iff_failsUnopened sample {} unreachableTwice _ rfl).mp ?_⟩
  refine Step.meets_cons trivial rfl (Step.meets_cons trivial rfl (Step.meets_cons trivial rfl
    (Step.meets_cons trivial rfl (Step.meets_cons ?_ rfl (Step.meets_cons trivial rfl (Step.meets_cons trivial rfl
      (Step.meets_cons trivial rfl (Step.meets_cons trivial rfl (Step.meets_cons ?_ rfl (Step.meets_cons trivial rfl
        (Step.meets_cons trivial rfl (Step.meets_cons trivial rfl (Step.meets_cons trivial rfl
          (Step.meets_cons trivial rfl (Step.meets_cons trivial rfl (Step.meets_cons ?_ rfl trivial))))))))))))))))
  · intro _ _ opened
    cases opened
  · intro _ _ opened
    cases opened
  · intro _ _ _
    exact Nat.zero_le 1

end RealtimePlatform.Proof.Backoff
