import RealtimePlatform.Backend.RouterRuns

namespace RealtimePlatform.Proof.HistoryRing
open Library Backend ChannelRouterService

section
variable {α β : Type*}

/-- A buffer holds the last of what was pushed, as many as it may, and gives back those stamped later. -/
structure Ring (capacity : Nat) (pushed : List (Nat × α)) (buf : HistoryBuffer α) : Prop where
  last : buf.entries.map (·.frame) = (pushed.map (·.2)).drop (pushed.length - min pushed.length capacity)
  bounded : buf.entries.length ≤ capacity
  since : ∀ s, buf.since s =
    ((pushed.drop (pushed.length - min pushed.length capacity)).filter fun p => s < p.1).map (·.2)
  suffix : ∀ s s', s ≤ s' → buf.since s' <:+ buf.since s

theorem filter_lt_suffix {f : β → Nat} {entries : List β} (s : Nat) (sorted : entries.Pairwise fun a b => f a ≤ f b) :
    entries.filter (fun e => s < f e) <:+ entries := by
  induction entries with
  | nil => simp
  | cons e entries ih =>
      obtain ⟨first, rest⟩ := List.pairwise_cons.mp sorted
      by_cases late : s < f e
      · have all : entries.filter (fun e => s < f e) = entries := by
          apply List.filter_eq_self.mpr
          intro d member
          exact decide_eq_true (lt_of_lt_of_le late (first d member))
        simp [late, all]
      · simp only [late, decide_false, Bool.false_eq_true, not_false_eq_true, List.filter_cons_of_neg]
        exact (ih rest).trans (List.suffix_cons e entries)

theorem filter_lt_filter_lt {f : β → Nat} {s s' : Nat} (le : s ≤ s') (entries : List β) :
    (entries.filter fun e => s < f e).filter (fun e => s' < f e) = entries.filter fun e => s' < f e := by
  rw [List.filter_filter]
  apply List.filter_congr
  intro e _
  simp only [Bool.and_eq_decide, decide_eq_true_eq, decide_eq_decide]
  omega

theorem since_suffix {buf : HistoryBuffer α} (sorted : buf.entries.Pairwise fun a b => a.timestampSecs ≤ b.timestampSecs)
    {s s' : Nat} (le : s ≤ s') : buf.since s' <:+ buf.since s := by
  unfold HistoryBuffer.since
  rw [← filter_lt_filter_lt le]
  exact (filter_lt_suffix s' (sorted.filter _)).map _

theorem length_retained_zero (pushed : List β) : (retained 0 pushed).length = pushed.length := by
  induction pushed using List.reverseRecOn with
  | nil => rfl
  | append_singleton pushed p ih =>
      rw [retained_concat]
      by_cases none : pushed.length = 0
      · simp [List.length_eq_zero_iff.mp none, retained]
      · simp [ih, none]

theorem retained_eq_last {capacity : Nat} (room : 0 < capacity) (pushed : List β) :
    retained capacity pushed = pushed.drop (pushed.length - min pushed.length capacity) := by
  rw [retained_eq_drop room]
  congr 1
  omega

/-- The buffer of a channel keeps the last of the publishes on it, as many as the router's capacity, exactly
when that is not zero or nothing was published. -/
theorem ring_iff (capacity : Nat) (es : List (RouterCall α)) (key : ChannelKey)
    (sorted : (es.filterMap (recorded key)).Pairwise fun p q => p.1.unixSecs ≤ q.1.unixSecs) :
    Ring capacity ((es.filterMap (recorded key)).map fun p => (p.1.unixSecs, p.2))
        (history key (es.foldl apply (withHistoryCapacity capacity))) ↔
      capacity ≠ 0 ∨ es.filterMap (recorded key) = [] := by
  have fresh : (history key (withHistoryCapacity capacity : ChannelRouterService α)).entries = [] := rfl
  have entries := (history_run (sized_new capacity) fresh es).2
  generalize history key (es.foldl apply (withHistoryCapacity capacity)) = buf at entries
  generalize es.filterMap (recorded key) = pushed at sorted entries
  constructor
  · intro ring
    have bounded := ring.bounded
    rw [entries, List.length_map] at bounded
    by_cases room : capacity = 0
    · subst room
      rw [length_retained_zero] at bounded
      exact Or.inr (List.length_eq_zero_iff.mp (Nat.le_zero.mp bounded))
    · exact Or.inl room
  · intro room
    have kept : retained capacity pushed = pushed.drop (pushed.length - min pushed.length capacity) := by
      rcases room with room | rfl
      · exact retained_eq_last (Nat.pos_of_ne_zero room) pushed
      · rfl
    rw [kept] at entries
    have stamps : buf.entries.Pairwise fun a b => a.timestampSecs ≤ b.timestampSecs := by
      rw [entries, List.pairwise_map]
      exact sorted.drop
    refine ⟨?_, ?_, fun s => ?_, fun s s' le => since_suffix stamps le⟩
    · simp [entries, Function.comp_def]
    · rw [entries, List.length_map, List.length_drop]
      omega
    · simp [HistoryBuffer.since, entries, List.filter_map, ← List.map_drop, Function.comp_def]

end

def room : ChannelKey := ⟨⟨List.replicate 16 0, rfl⟩, "room"⟩

/-- One publish a second. -/
def publishes (n : Nat) : List (RouterCall Nat) :=
  (List.range n).map fun i => .publish room.tenantId room i ⟨0, i * 1000000000⟩

theorem recorded_publishes (n : Nat) :
    (publishes n).filterMap (recorded room) = (List.range n).map fun i => (⟨0, i * 1000000000⟩, i) := by
  rw [publishes, List.filterMap_map, ← List.filterMap_eq_map]
  congr 1

theorem sorted_publishes (n : Nat) :
    ((publishes n).filterMap (recorded room)).Pairwise fun p q => p.1.unixSecs ≤ q.1.unixSecs := by
  rw [recorded_publishes, List.pairwise_map]
  apply List.pairwise_le_range.imp
  intro i j le
  simpa [Clock.unixSecs] using le

theorem ring_iff_threePublishes :
    Ring 2 (((publishes 3).filterMap (recorded room)).map fun p => (p.1.unixSecs, p.2))
        (history room ((publishes 3).foldl apply (withHistoryCapacity 2))) ∧
      (history room ((publishes 3).foldl apply (withHistoryCapacity 2))).entries.map (·.frame) = [1, 2] :=
  ⟨(ring_iff 2 (publishes 3) room (sorted_publishes 3)).mpr (Or.inl (by decide)), rfl⟩

theorem overgrown : ¬ ∀ (capacity : Nat) (es : List (RouterCall Nat)) (key : ChannelKey),
    (es.filterMap (recorded key)).Pairwise (fun p q => p.1.unixSecs ≤ q.1.unixSecs) →
      Ring capacity ((es.filterMap (recorded key)).map fun p => (p.1.unixSecs, p.2))
        (history key (es.foldl apply (withHistoryCapacity capacity))) := by
  intro claim
  have bounded := (claim 0 (publishes 2) room (sorted_publishes 2)).bounded
  have held : (history room ((publishes 2).foldl apply (withHistoryCapacity 0))).entries.length = 2 := rfl
  omega

end RealtimePlatform.Proof.HistoryRing
