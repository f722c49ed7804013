import RealtimePlatform.Backend.TcpFraming

namespace RealtimePlatform.Proof.Framing
open Backend Backend.TcpFraming

def Consecutive (k : Nat) (starts : List Nat) : Prop :=
  ∀ (j offset : Nat), starts[j]? = some offset → offset = frameSize * (k + j)

theorem consecutive_append {k : Nat} {front back : List Nat} :
    Consecutive k (front ++ back) ↔ Consecutive k front ∧ Consecutive (k + front.length) back := by
  constructor
  · intro all
    refine ⟨fun j offset found => all j offset ?_, fun j offset found => ?_⟩
    · rw [List.getElem?_append_left (List.getElem?_eq_some_iff.mp found).1, found]
    · have shifted := all (front.length + j) offset (by rw [List.getElem?_append_right (by omega)]; simpa)
      rw [shifted, Nat.add_assoc]
  · rintro ⟨first, second⟩ j offset found
    by_cases early : j < front.length
    · rw [List.getElem?_append_left early] at found
      exact first j offset found
    · rw [List.getElem?_append_right (by omega)] at found
      have later := second (j - front.length) offset found
      rw [later]
      congr 1
      omega

theorem consecutive_range {start count k : Nat} :
    Consecutive k ((List.range count).map fun j => start + frameSize * j) ↔
      count = 0 ∨ start = frameSize * k := by
  constructor
  · intro all
    by_cases none : count = 0
    · exact Or.inl none
    · have first := all 0 start (by simp [Nat.pos_of_ne_zero none])
      exact Or.inr first
  · rintro (rfl | rfl) j offset found
    · simp at found
    · rw [List.getElem?_map, Option.map_eq_some_iff] at found
      obtain ⟨i, index, rfl⟩ := found
      obtain ⟨_, rfl⟩ := List.getElem?_eq_some_iff.mp index
      rw [List.getElem_range, Nat.mul_add]

theorem consecutive_of_lost {schedule : List SocketEvent} {start fill k : Nat}
    (lost : frameSize * k < start) :
    Consecutive k (offsets start fill schedule) ↔ completed fill schedule = 0 := by
  rw [← length_offsets start fill schedule, List.length_eq_zero_iff]
  constructor
  · intro all
    induction schedule generalizing start fill with
    | nil => rfl
    | cons event rest ih =>
        cases event with
        | read count =>
            obtain ⟨first, second⟩ := consecutive_append.mp all
            have none : (fill + count) / frameSize = 0 := by
              rcases consecutive_range.mp first with zero | aligned
              · exact zero
              · omega
            rw [none] at second
            simp only [List.range_zero, List.map_nil, List.length_nil, Nat.add_zero, Nat.mul_zero] at second
            simp [offsets, none, ih lost second]
        | relayed => exact ih (by omega) all
  · intro empty
    rw [empty]
    intro j offset found
    simp at found

theorem consecutive_iff_undisturbed (schedule : List SocketEvent) (fill k : Nat) :
    Consecutive k (offsets (frameSize * k) fill schedule) ↔ Undisturbed fill schedule := by
  induction schedule generalizing fill k with
  | nil =>
      refine iff_of_true (fun j offset found => ?_) trivial
      simp [offsets] at found
  | cons event rest ih =>
      cases event with
      | read count =>
          rw [offsets, consecutive_append, consecutive_range, List.length_map, List.length_range,
            ← Nat.mul_add, ih]
          exact and_iff_right (Or.inr rfl)
      | relayed =>
          by_cases whole : fill = 0
          · subst whole
            show Consecutive k (offsets (frameSize * k) 0 rest) ↔ _
            rw [ih]
            simp [Undisturbed]
          · show Consecutive k (offsets (frameSize * k + fill) 0 rest) ↔ _
            rw [consecutive_of_lost (by omega)]
            simp only [Undisturbed, whole, false_or]
            refine ⟨fun none => ⟨none, (ih 0 k).mp ?_⟩, And.left⟩
            have empty := List.length_eq_zero_iff.mp ((length_offsets (frameSize * k) 0 rest).trans none)
            intro j offset found
            rw [empty] at found
            simp at found

def marked (position : Nat) : Nat → UInt8 := fun i => if i = position then 1 else 0

theorem framed_iff_consecutive {starts : List Nat} :
    (∀ stream, Framed stream (starts.map fun offset => window stream offset frameSize)) ↔
      Consecutive 0 starts := by
  constructor
  · intro framed k offset found
    have same : window (marked (frameSize * k)) offset frameSize =
        window (marked (frameSize * k)) (frameSize * k) frameSize :=
      framed _ k _ (by rw [List.getElem?_map, found]; rfl)
    -- The two windows differ in their first byte unless they start together.
    have heads := congrArg (fun bytes => bytes[0]?) same
    simp only [head_window, Option.some.injEq, marked, if_true] at heads
    by_contra apart
    rw [Nat.zero_add] at apart
    rw [if_neg apart] at heads
    exact absurd heads (by decide)
  · intro aligned stream k buf found
    rw [List.getElem?_map, Option.map_eq_some_iff] at found
    obtain ⟨offset, index, rfl⟩ := found
    rw [aligned k offset index, Nat.zero_add]

/-- Framing is preserved for every stream exactly when the schedule never relays a message in the
middle of a frame that a later buffer follows. -/
theorem framing_preserved_iff (schedule : List SocketEvent) :
    (∀ stream, Framed stream (run stream opened schedule).handed) ↔ Undisturbed 0 schedule := by
  have windows : (∀ stream, Framed stream (run stream opened schedule).handed) ↔
      Consecutive 0 (offsets 0 0 schedule) := by
    simp only [handed_run]
    exact framed_iff_consecutive
  exact windows.trans (consecutive_iff_undisturbed schedule 0 0)

theorem framing_lost :
    ¬ ∀ (stream : Nat → UInt8) (schedule : List SocketEvent),
      Framed stream (run stream opened schedule).handed := by
  intro preserved
  have handed : (run (marked 0) opened [.read 1, .relayed, .read 256]).handed =
      [window (marked 0) 1 frameSize] := by
    rw [handed_run]
    rfl
  have same := preserved (marked 0) [.read 1, .relayed, .read 256] 0 _ (by rw [handed]; rfl)
  have heads := congrArg (fun bytes => bytes[0]?) same
  simp only [head_window, Option.some.injEq] at heads
  exact absurd heads (by decide)

end RealtimePlatform.Proof.Framing
