import RealtimePlatform.Proof.CatchUp

namespace RealtimePlatform.Proof.ReplayCutoff
open Library Backend RedisStreamsHistoryAdapter UseCases

def startMillis (sinceUnixSecs : Nat) : Nat := sinceUnixSecs * 1000 % 2 ^ 64

section
variable {α : Type*} {redis : RedisStreams α} {key : ChannelKey} {s : Nat}

/-- The entries of the stream that are given back. -/
def returned (redis : RedisStreams α) (key : ChannelKey) (sinceUnixSecs : Nat) : List (StreamEntry α) :=
  (redis (streamKey key)).filter fun e => sinceUnixSecs = 0 ∨ idBefore (startMillis sinceUnixSecs, 0) e.id

theorem since_eq (redis : RedisStreams α) (key : ChannelKey) (s : Nat) :
    since redis key s = (returned redis key s).map (·.frame) := by
  by_cases all : s = 0
  · simp [since, returned, all]
  · simp [since, returned, all, startMillis]

/-- The stream is asked from the second on, and nothing persisted by then is given back. -/
structure Cutoff (redis : RedisStreams α) (key : ChannelKey) (s : Nat) : Prop where
  bound : startMillis s = s * 1000
  later : ∀ e ∈ returned redis key s, s * 1000 < e.id.1

theorem idBefore_start {ms : Nat} {id : Nat × Nat} : idBefore (ms, 0) id = true ↔ ms < id.1 ∨ ms = id.1 ∧ 0 < id.2 := by
  simp [idBefore]

theorem cutoff_iff : Cutoff redis key s ↔
    s * 1000 < 2 ^ 64 ∧ ∀ e ∈ redis (streamKey key), e.id.1 = s * 1000 → s ≠ 0 ∧ e.id.2 = 0 := by
  constructor
  · rintro ⟨bound, later⟩
    have small : s * 1000 < 2 ^ 64 := by
      rw [← bound]
      exact Nat.mod_lt _ (by decide)
    refine ⟨small, fun e stored same => ?_⟩
    by_contra early
    have kept : e ∈ returned redis key s := by
      refine List.mem_filter.mpr ⟨stored, decide_eq_true ?_⟩
      by_cases all : s = 0
      · exact Or.inl all
      · have seq : 0 < e.id.2 := Nat.pos_of_ne_zero fun zero => early ⟨all, zero⟩
        rw [bound]
        exact Or.inr (idBefore_start.mpr (Or.inr ⟨same.symm, seq⟩))
    have past := later e kept
    omega
  · rintro ⟨small, first⟩
    have bound : startMillis s = s * 1000 := Nat.mod_eq_of_lt small
    refine ⟨bound, fun e kept => ?_⟩
    obtain ⟨stored, asked⟩ := List.mem_filter.mp kept
    have start := of_decide_eq_true asked
    rw [bound, idBefore_start] at start
    rcases start with all | past | ⟨same, seq⟩
    · by_contra early
      exact (first e stored (by omega)).1 all
    · exact past
    · have none := (first e stored same.symm).2
      omega

end

/-- A REPLAY is answered from its second on exactly when the millisecond fits 64 bits and no entry but the first id of
that millisecond was persisted in it. -/
theorem replay_cutoff_iff (redis : RedisStreams Message) (frame : Frame) (ctx : RealtimeContext) (s : Nat)
    (ported : ctx.channelRouter.historyPort.isSome = true) (exact : isPattern frame.channelId = false)
    (parsed : parseU64 (trim frame.payload.toList) = some s) :
    (replayHistory redis (some frame.tenantId) frame ctx).1 =
      .replayed ((returned redis ⟨frame.tenantId, frame.channelId⟩ s).map (·.frame)) ∧
    (Cutoff redis ⟨frame.tenantId, frame.channelId⟩ s ↔ s * 1000 < 2 ^ 64 ∧
      ∀ e ∈ redis (streamKey ⟨frame.tenantId, frame.channelId⟩), e.id.1 = s * 1000 → s ≠ 0 ∧ e.id.2 = 0) := by
  refine ⟨?_, cutoff_iff⟩
  obtain ⟨port, attached⟩ := Option.isSome_iff_exists.mp ported
  have asked : sinceSecs frame = s := by
    rw [sinceSecs, parsed]
    rfl
  simp only [replayHistory, ownTenant_self, exact, Bool.false_eq_true, if_false,
    ChannelRouterService.replay, attached, asked, since_eq]
  simp

section
open SampleToken Sample Server

def lateFrame : FrameBuilder :=
  { opcode := .replay, tenantId := tenantOne, channelId := "room", payload := "18446744073709552" }

def lateParsed : Frame := lateFrame.frame (by decide) (by decide)

theorem parsed_late : parseU64 (trim lateParsed.payload.toList) = some 18446744073709552 := by decide

theorem exact_late : isPattern lateParsed.channelId = false := by decide

/-- A stream with one entry of the second 1. -/
def early : RedisStreams Message := fun _ => [⟨(1000, 0), ⟨lateFrame.build, ⟨tenantOne, "room"⟩⟩⟩]

theorem replay_cutoff_iff_late :
    (replayHistory early (some lateParsed.tenantId) lateParsed (started true).ctx).1 =
      .replayed ((returned early ⟨lateParsed.tenantId, lateParsed.channelId⟩ 18446744073709552).map (·.frame)) ∧
    (Cutoff early ⟨lateParsed.tenantId, lateParsed.channelId⟩ 18446744073709552 ↔
      18446744073709552 * 1000 < 2 ^ 64 ∧
      ∀ e ∈ early (streamKey ⟨lateParsed.tenantId, lateParsed.channelId⟩), e.id.1 = 18446744073709552 * 1000 →
        18446744073709552 ≠ 0 ∧ e.id.2 = 0) :=
  replay_cutoff_iff early lateParsed (started true).ctx 18446744073709552 rfl exact_late parsed_late

theorem not_cutoff_late : ¬ ∀ (redis : RedisStreams Message) (frame : Frame) (s : Nat),
    isPattern frame.channelId = false → parseU64 (trim frame.payload.toList) = some s →
      Cutoff redis ⟨frame.tenantId, frame.channelId⟩ s := by
  intro claim
  have small := (cutoff_iff.mp (claim early lateParsed 18446744073709552 exact_late parsed_late)).1
  exact absurd small (by decide)

end

end RealtimePlatform.Proof.ReplayCutoff
