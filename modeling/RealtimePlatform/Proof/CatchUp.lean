import RealtimePlatform.Backend.RouterRuns
import RealtimePlatform.Proof.Handling

namespace RealtimePlatform.Proof.CatchUp
open Library Backend ChannelRouterService UseCases

theorem isWhiteSpace_of_isDigit {c : Char} (digit : c.isDigit = true) : isWhiteSpace c = false := by
  have range : 48 ≤ c.toNat ∧ c.toNat ≤ 57 := by
    simpa [Char.isDigit, UInt32.le_iff_toNat_le] using digit
  simp only [isWhiteSpace, Bool.or_eq_false_iff, Bool.and_eq_false_iff, decide_eq_false_iff_not]
  omega

theorem trim_of_isDigit {text : List Char} (decimal : ∀ c ∈ text, c.isDigit = true) : trim text = text := by
  have kept : ∀ l : List Char, (∀ c ∈ l, c.isDigit = true) → l.dropWhile isWhiteSpace = l := by
    intro l all
    cases l with
    | nil => rfl
    | cons c rest => simp [isWhiteSpace_of_isDigit (all c List.mem_cons_self)]
  rw [trim, kept text decimal, List.rdropWhile, kept text.reverse (by simpa using decimal), List.reverse_reverse]

theorem parseU64_of_unsigned {s : List Char} (unsigned : s.head? ≠ some '+') : parseU64 s =
    if s.isEmpty || !s.all Char.isDigit then none
    else if s.foldl (fun acc c => 10 * acc + (c.toNat - 48)) 0 < 2 ^ 64 then
      some (s.foldl (fun acc c => 10 * acc + (c.toNat - 48)) 0)
    else none := by
  unfold parseU64
  split
  · exact absurd rfl unsigned
  · rfl

theorem parseU64_toDigits {n : Nat} (small : n < 2 ^ 64) : parseU64 (Nat.toDigits 10 n) = some n := by
  have decimal : ∀ c ∈ Nat.toDigits 10 n, c.isDigit = true :=
    fun c member => Nat.isDigit_of_mem_toDigits (by decide) (by decide) member
  have value : (Nat.toDigits 10 n).foldl (fun acc c => 10 * acc + (c.toNat - 48)) 0 = n :=
    Nat.ofDigitChars_ten_toDigits
  have unsigned : (Nat.toDigits 10 n).head? ≠ some '+' := by
    intro first
    have sign := decimal '+' (List.mem_of_head? first)
    cases sign
  have legal : (Nat.toDigits 10 n).all Char.isDigit = true := List.all_eq_true.mpr decimal
  rw [parseU64_of_unsigned unsigned, value, legal, if_neg (by simp [Nat.toDigits_ne_nil]), if_pos small]

theorem sinceSecs_decimal {frame : Frame} {n : Nat} (small : n < 2 ^ 64)
    (asked : frame.payload = String.ofList (Nat.toDigits 10 n)) : sinceSecs frame = n := by
  have decimal : ∀ c ∈ Nat.toDigits 10 n, c.isDigit = true :=
    fun c member => Nat.isDigit_of_mem_toDigits (by decide) (by decide) member
  rw [sinceSecs, asked, String.toList_ofList, trim_of_isDigit decimal, parseU64_toDigits small]
  rfl

section
variable {α β : Type*} {l : List α} {p q : α → Bool} (f : α → β)

theorem filter_sublist (wider : ∀ a ∈ l, p a = true → q a = true) : (l.filter p).Sublist (l.filter q) := by
  have both : l.filter p = (l.filter q).filter p := by
    rw [List.filter_filter]
    refine List.filter_congr fun a member => ?_
    cases narrow : p a with
    | false => rfl
    | true => simp [wider a member narrow]
  rw [both]
  exact List.filter_sublist

theorem sublist_filter_iff (wider : ∀ a ∈ l, p a = true → q a = true) :
    ((l.filter q).map f).Sublist ((l.filter p).map f) ↔ ∀ a ∈ l, q a = true → p a = true := by
  constructor
  · intro complete a member wide
    have size := complete.length_le
    rw [List.length_map, List.length_map] at size
    have same := (filter_sublist wider).eq_of_length_le size
    have kept : a ∈ l.filter q := List.mem_filter.mpr ⟨member, wide⟩
    exact (List.mem_filter.mp (same ▸ kept)).2
  · exact fun narrow => (filter_sublist narrow).map f

theorem map_filter_eq_iff (wider : ∀ a ∈ l, p a = true → q a = true) :
    (l.filter p).map f = (l.filter q).map f ↔ ∀ a ∈ l, q a = true → p a = true := by
  rw [← sublist_filter_iff f wider]
  constructor
  · intro same
    rw [same]
  · exact fun complete => ((filter_sublist wider).map f).antisymm complete

end

/-- The publishes after the instant `t`, of those retained. -/
def after {α : Type*} (t : Nat) (pushed : List (Clock × α)) : List (Clock × α) := pushed.filter fun p => t < p.1.system

/-- Nothing is published in what remains of the second. -/
def SecondOver {α : Type*} (t : Nat) (pushed : List (Clock × α)) : Prop :=
  ∀ p ∈ after t pushed, p.1.unixSecs ≠ t / 1000000000

section
variable {α : Type*}

theorem since_stamped (pushed : List (Clock × α)) (buf : HistoryBuffer α) (sinceSecs : Nat)
    (entries : buf.entries = pushed.map fun p => ⟨p.1.unixSecs, p.2⟩) :
    buf.since sinceSecs = (pushed.filter fun p => sinceSecs < p.1.unixSecs).map (·.2) := by
  simp only [HistoryBuffer.since, entries, List.filter_map, List.map_map]
  rfl

theorem later_second {now : Clock} {t : Nat} (later : t / 1000000000 < now.unixSecs) : t < now.system := by
  unfold Clock.unixSecs at later
  omega

theorem secondOver_iff {t : Nat} {pushed : List (Clock × α)} : SecondOver t pushed ↔
    ((after t pushed).map (·.2)).Sublist ((pushed.filter fun p => t / 1000000000 < p.1.unixSecs).map (·.2)) := by
  have cut := sublist_filter_iff (l := pushed) (p := fun p => t / 1000000000 < p.1.unixSecs)
    (q := fun p => t < p.1.system) (·.2) fun p _ later => decide_eq_true (later_second (of_decide_eq_true later))
  rw [after, cut]
  simp only [SecondOver, after, List.mem_filter, decide_eq_true_eq, and_imp]
  refine forall₃_congr fun p _ later => ?_
  have order : t / 1000000000 ≤ p.1.unixSecs := Nat.div_le_div_right (Nat.le_of_lt later)
  omega

end

theorem historyPort_run {α : Type*} (es : List (RouterCall α)) (r : ChannelRouterService α)
    (portless : r.historyPort = none) : (es.foldl apply r).historyPort = none := by
  induction es generalizing r with
  | nil => exact portless
  | cons e es ih =>
      apply ih
      have same := isSome_historyPort_apply (r := r) e
      rw [portless] at same
      exact Option.isSome_eq_false_iff.mp same |> Option.isNone_iff_eq_none.mp

theorem replayHistory_eq {redis : RedisStreams Message} {frame : Frame} {ctx : RealtimeContext}
    (portless : ctx.channelRouter.historyPort = none) :
    (replayHistory redis (some frame.tenantId) frame ctx).1 = if isPattern frame.channelId then .none else
      .replayed ((history ⟨frame.tenantId, frame.channelId⟩ ctx.channelRouter).since (sinceSecs frame)) := by
  simp only [replayHistory, ownTenant_self, replay, portless, history]
  split
  · rfl
  · simp

/-- A REPLAY with the second of `t` is answered with every retained frame published after `t` exactly when the
name is not a pattern and nothing was published in the rest of that second. -/
theorem catches_up_iff (redis : RedisStreams Message) (capacity : Nat) (es : List (RouterCall Message))
    (t : Nat) (frame : Frame) (ctx : RealtimeContext)
    (reached : ctx.channelRouter = es.foldl apply (withHistoryCapacity capacity))
    (small : t / 1000000000 < 2 ^ 64)
    (asked : frame.payload = String.ofList (Nat.toDigits 10 (t / 1000000000))) :
    (∃ frames, (replayHistory redis (some frame.tenantId) frame ctx).1 = .replayed frames ∧
      ((after t (retained capacity (es.filterMap (recorded ⟨frame.tenantId, frame.channelId⟩)))).map
        (·.2)).Sublist frames) ↔
    isPattern frame.channelId = false ∧
      SecondOver t (retained capacity (es.filterMap (recorded ⟨frame.tenantId, frame.channelId⟩))) := by
  have portless : ctx.channelRouter.historyPort = none := reached ▸ historyPort_run es _ rfl
  have fresh : (history ⟨frame.tenantId, frame.channelId⟩
      (withHistoryCapacity capacity : ChannelRouterService Message)).entries = [] := rfl
  have entries := (history_run (sized_new capacity) fresh es).2
  rw [← reached] at entries
  rw [replayHistory_eq portless, sinceSecs_decimal small asked, since_stamped _ _ _ entries, secondOver_iff]
  cases isPattern frame.channelId with
  | true => simp
  | false => simp

section
open SampleToken Sample Server

def roomFive : FrameBuilder := ⟨.replay, tenantOne, "room", "5"⟩

def roomFiveParsed : Frame := roomFive.frame (by decide) (by decide)

def note : Message := ⟨roomFive.build, ⟨tenantOne, "room"⟩⟩

def noted : List (RouterCall Message) := [.publish tenantOne ⟨tenantOne, "room"⟩ note ⟨0, 5700000000⟩]

def notedContext : RealtimeContext :=
  { (started false).ctx with channelRouter := noted.foldl apply (withHistoryCapacity defaultHistoryCapacity) }

theorem retained_noted : retained defaultHistoryCapacity (noted.filterMap (recorded ⟨tenantOne, "room"⟩)) =
    [(⟨0, 5700000000⟩, note)] := rfl

theorem misses_rest_of_second : roomFiveParsed.payload = String.ofList (Nat.toDigits 10 (5200000000 / 1000000000)) ∧
    (replayHistory (fun _ => []) (some tenantOne) roomFiveParsed notedContext).1 = .replayed [] ∧
    ¬ ∃ frames, (replayHistory (fun _ => []) (some tenantOne) roomFiveParsed notedContext).1 = .replayed frames ∧
      ((after 5200000000 (retained defaultHistoryCapacity
        (noted.filterMap (recorded ⟨tenantOne, "room"⟩)))).map (·.2)).Sublist frames := by
  have asked : roomFiveParsed.payload = String.ofList (Nat.toDigits 10 (5200000000 / 1000000000)) := by decide
  have entries : (history ⟨tenantOne, "room"⟩ notedContext.channelRouter).entries =
      [((⟨0, 5700000000⟩ : Clock), note)].map fun p => ⟨p.1.unixSecs, p.2⟩ := rfl
  have answer : (replayHistory (fun _ => []) (some tenantOne) roomFiveParsed notedContext).1 = .replayed [] := by
    have exact : isPattern roomFiveParsed.channelId = false := by decide
    have portless : notedContext.channelRouter.historyPort = none := rfl
    have own : tenantOne = roomFiveParsed.tenantId := rfl
    rw [own, replayHistory_eq portless, exact, sinceSecs_decimal (by decide) asked]
    exact congrArg FrameCommand.replayed (since_stamped _ _ _ entries)
  refine ⟨asked, answer, ?_⟩
  rintro ⟨frames, replayed, complete⟩
  cases replayed.symm.trans answer
  have size := complete.length_le
  rw [retained_noted] at size
  exact absurd size (by decide)

theorem catches_up_after_noted : ∃ frames,
    (replayHistory (fun _ => []) (some tenantOne) roomFiveParsed notedContext).1 = .replayed frames ∧
      ((after 5900000000 (retained defaultHistoryCapacity
        (noted.filterMap (recorded ⟨tenantOne, "room"⟩)))).map (·.2)).Sublist frames :=
  (catches_up_iff (fun _ => []) defaultHistoryCapacity noted 5900000000 roomFiveParsed notedContext rfl (by decide)
    (by decide)).mpr ⟨by decide, by rw [SecondOver, after]; exact nofun⟩

end

/-- A publish as Redis stores it: the id `<ms>-<seq>` it gives and how many old entries it trims. -/
structure Write (α : Type*) where
  id : Nat × Nat
  evicted : Nat
  frame : α

section
variable {α : Type*} {key : ChannelKey} {ws : List (Write α)}

/-- The ring buffer of a channel after the publishes, stamped with their seconds. -/
def pushedRing (capacity : Nat) (ws : List (Write α)) : HistoryBuffer α :=
  ws.foldl (fun buf w => buf.push (w.id.1 / 1000) w.frame) (HistoryBuffer.new capacity)

def writtenStreams (maxlen : Nat) (key : ChannelKey) (ws : List (Write α)) : Option (RedisStreams α) :=
  ws.foldlM (fun redis w => redis.xadd maxlen w.evicted key w.id w.frame) fun _ => []

/-- The second and the stream id of a publish fall on the same side of the cut. -/
def Apart (sinceSecs : Nat) (id : Nat × Nat) : Prop :=
  if sinceSecs = 0 then 1000 ≤ id.1
  else if sinceSecs * 1000 < 2 ^ 64 then id.1 / 1000 = sinceSecs → id = (sinceSecs * 1000, 0)
  else idBefore (sinceSecs * 1000 % 2 ^ 64, 0) id = false

theorem entries_pushedRing {capacity : Nat} (fits : ws.length ≤ capacity) :
    (pushedRing capacity ws).capacity = capacity ∧
      (pushedRing capacity ws).entries = ws.map fun w => ⟨w.id.1 / 1000, w.frame⟩ := by
  induction ws using List.reverseRecOn with
  | nil => exact ⟨rfl, rfl⟩
  | append_singleton ws w ih =>
      rw [List.length_append, List.length_singleton] at fits
      obtain ⟨same, entries⟩ := ih (by omega)
      rw [pushedRing, List.foldl_append, List.foldl_cons, List.foldl_nil, ← pushedRing]
      refine ⟨same, ?_⟩
      rw [HistoryBuffer.push, same, entries, List.length_map, if_neg (by omega), List.map_append]
      rfl

theorem writtenStreams_eq {maxlen : Nat} {redis : RedisStreams α} (fits : ws.length ≤ maxlen)
    (written : writtenStreams maxlen key ws = some redis) :
    redis (streamKey key) = ws.map fun w => ⟨w.id, w.frame⟩ := by
  induction ws using List.reverseRecOn generalizing redis with
  | nil => cases written; rfl
  | append_singleton ws w ih =>
      rw [List.length_append, List.length_singleton] at fits
      rw [writtenStreams, List.foldlM_append, ← writtenStreams] at written
      obtain ⟨before, earlier, added⟩ := Option.bind_eq_some_iff.mp written
      have entries := ih (by omega) earlier
      simp only [List.foldlM_cons, List.foldlM_nil, bind_pure, RedisStreams.xadd, Option.ite_none_right_eq_some, Bool.and_eq_true, Bool.or_eq_true, beq_iff_eq,
        decide_eq_true_eq] at added
      obtain ⟨⟨-, room⟩, grown⟩ := added
      rw [entries, List.length_append, List.length_map, List.length_singleton] at room
      have none : w.evicted = 0 := by omega
      rw [← Option.some.inj grown, Function.update_self, none, List.drop_zero, entries, List.map_append]
      rfl

theorem since_written {redis : RedisStreams α} (sinceSecs : Nat)
    (entries : redis (streamKey key) = ws.map fun w => ⟨w.id, w.frame⟩) :
    RedisStreamsHistoryAdapter.since redis key sinceSecs =
      (ws.filter fun w => sinceSecs = 0 || idBefore (sinceSecs * 1000 % 2 ^ 64, 0) w.id).map (·.frame) := by
  simp only [RedisStreamsHistoryAdapter.since, entries]
  split
  · rename_i all
    simp [all]
  · rename_i cut
    simp [cut, List.filter_map, Function.comp_def]

theorem since_pushed {buf : HistoryBuffer α} (sinceSecs : Nat)
    (entries : buf.entries = ws.map fun w => ⟨w.id.1 / 1000, w.frame⟩) :
    buf.since sinceSecs = (ws.filter fun w => sinceSecs < w.id.1 / 1000).map (·.frame) := by
  simp [HistoryBuffer.since, entries, List.filter_map, Function.comp_def]

theorem idBefore_of_second {sinceSecs : Nat} {id : Nat × Nat} (small : id.1 < 2 ^ 64)
    (later : sinceSecs < id.1 / 1000) : idBefore (sinceSecs * 1000 % 2 ^ 64, 0) id = true := by
  simp only [idBefore, Bool.or_eq_true, decide_eq_true_eq]
  left
  omega

theorem apart_iff {sinceSecs : Nat} {id : Nat × Nat} (small : id.1 < 2 ^ 64) : Apart sinceSecs id ↔
    ((decide (sinceSecs = 0) || idBefore (sinceSecs * 1000 % 2 ^ 64, 0) id) = true →
      decide (sinceSecs < id.1 / 1000) = true) := by
  obtain ⟨ms, seq⟩ := id
  simp only at small
  unfold Apart
  split
  · rename_i all
    subst all
    simp
  · rename_i cut
    split
    · rename_i exact
      simp only [idBefore, cut, decide_false, Bool.false_or, Bool.or_eq_true, Bool.and_eq_true, decide_eq_true_eq,
        beq_iff_eq, Prod.mk.injEq, Nat.mod_eq_of_lt exact]
      omega
    · rename_i wraps
      have never : ¬ sinceSecs < ms / 1000 := by omega
      simp [cut, never]

/-- The two histories answer alike exactly when no publish falls inside the second asked for. -/
theorem backends_agree_iff (key : ChannelKey) (ws : List (Write α)) (capacity maxlen sinceSecs : Nat)
    (redis : RedisStreams α) (fits : ws.length ≤ capacity) (fitsStream : ws.length ≤ maxlen)
    (small : ∀ w ∈ ws, w.id.1 < 2 ^ 64) (written : writtenStreams maxlen key ws = some redis) :
    (pushedRing capacity ws).since sinceSecs = RedisStreamsHistoryAdapter.since redis key sinceSecs ↔
      ∀ w ∈ ws, Apart sinceSecs w.id := by
  rw [since_pushed sinceSecs (entries_pushedRing fits).2, since_written sinceSecs (writtenStreams_eq fitsStream written),
    map_filter_eq_iff]
  · exact forall₂_congr fun w member => (apart_iff (small w member)).symm
  · intro w member later
    rw [idBefore_of_second (small w member) (of_decide_eq_true later), Bool.or_true]

end

section
open SampleToken

def sameSecond : List (Write Nat) := [⟨(5000, 0), 0, 1⟩, ⟨(5500, 0), 0, 2⟩]

def sameSecondStreams : RedisStreams Nat :=
  Function.update (Function.update (fun _ => []) (streamKey ⟨tenantOne, "room"⟩) [⟨(5000, 0), 1⟩])
    (streamKey ⟨tenantOne, "room"⟩) [⟨(5000, 0), 1⟩, ⟨(5500, 0), 2⟩]

theorem writtenStreams_sameSecond :
    writtenStreams 1000 ⟨tenantOne, "room"⟩ sameSecond = some sameSecondStreams := by
  simp [writtenStreams, sameSecond, sameSecondStreams, RedisStreams.xadd, idBefore]

theorem stream_returns_more : writtenStreams 1000 ⟨tenantOne, "room"⟩ sameSecond = some sameSecondStreams ∧
    (pushedRing 50 sameSecond).since 5 = [] ∧
    RedisStreamsHistoryAdapter.since sameSecondStreams ⟨tenantOne, "room"⟩ 5 = [2] ∧
    ¬ (pushedRing 50 sameSecond).since 5 =
      RedisStreamsHistoryAdapter.since sameSecondStreams ⟨tenantOne, "room"⟩ 5 := by
  have ring : (pushedRing 50 sameSecond).since 5 = [] := rfl
  have stream : RedisStreamsHistoryAdapter.since sameSecondStreams ⟨tenantOne, "room"⟩ 5 = [2] := by
    simp [RedisStreamsHistoryAdapter.since, sameSecondStreams, idBefore]
  refine ⟨writtenStreams_sameSecond, ring, stream, ?_⟩
  rw [ring, stream]
  exact nofun

theorem backends_agree_before_second : (pushedRing 50 sameSecond).since 4 =
    RedisStreamsHistoryAdapter.since sameSecondStreams ⟨tenantOne, "room"⟩ 4 :=
  (backends_agree_iff ⟨tenantOne, "room"⟩ sameSecond 50 1000 4 sameSecondStreams (by decide) (by decide)
    (by decide) writtenStreams_sameSecond).mpr (by simp [sameSecond, Apart])

end

end RealtimePlatform.Proof.CatchUp
