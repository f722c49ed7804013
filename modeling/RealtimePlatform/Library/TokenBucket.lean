import Mathlib.Algebra.Order.Field.Basic
import Mathlib.Tactic.Linarith
import Mathlib.Tactic.Ring

/-!
# Which arrivals a token bucket admits

A bucket of some capacity refills at a constant rate and gives up a token at each arrival. It admits all
of a sequence of arrivals when no part of the sequence asks for more than the bucket can hold and regain.
-/

namespace RealtimePlatform.Library
variable {K : Type*} [Field K] [LinearOrder K] [IsStrictOrderedRing K]

def tokensAt (capacity rate tokens last now : K) : K := min (tokens + (now - last) * rate) capacity

theorem tokensAt_tokensAt {capacity rate last now late : K} (tokens : K) (rising : 0 ≤ rate) (le : now ≤ late) :
    tokensAt capacity rate (tokensAt capacity rate tokens last now) now late =
      tokensAt capacity rate tokens last late := by
  have gain := mul_nonneg (sub_nonneg.mpr le) rising
  have full : min (capacity + (late - now) * rate) capacity = capacity :=
    min_eq_right (le_add_of_nonneg_right gain)
  unfold tokensAt
  rw [← min_add_add_right, min_assoc, full]
  congr 1
  ring

theorem tokensAt_full {capacity rate last now : K} (rising : 0 ≤ rate) (le : last ≤ now) :
    tokensAt capacity rate capacity last now = capacity :=
  min_eq_right (le_add_of_nonneg_right (mul_nonneg (sub_nonneg.mpr le) rising))

/-- Every arrival finds a token, when there were `tokens` at the time `last`. -/
def Admits (capacity rate : K) : K → K → List K → Prop
  | _, _, [] => True
  | tokens, last, now :: times =>
    1 ≤ tokensAt capacity rate tokens last now ∧
      Admits capacity rate (tokensAt capacity rate tokens last now - 1) now times

def Covered (rate tokens last : K) (times : List K) : Prop :=
  ∀ (j : Nat) (late : K), times[j]? = some late → (j : K) + 1 ≤ tokens + (late - last) * rate

/-- No part of the arrivals asks for more than a full bucket and what comes in meanwhile. -/
def Paced (capacity rate : K) (times : List K) : Prop :=
  ∀ (i j : Nat) (early late : K), i ≤ j → times[i]? = some early → times[j]? = some late →
    (j : K) - i + 1 ≤ capacity + (late - early) * rate

section
variable {capacity rate tokens last now : K} {times : List K}

theorem covered_cons : Covered rate tokens last (now :: times) ↔
    1 ≤ tokens + (now - last) * rate ∧ Covered rate (tokens - 1) last times := by
  constructor
  · intro covered
    refine ⟨by simpa using covered 0 now rfl, fun j late found => ?_⟩
    have later := covered (j + 1) late found
    push_cast at later
    linarith
  · rintro ⟨first, rest⟩ (_ | j) late found
    · obtain rfl : now = late := Option.some.inj found
      simpa using first
    · have later := rest j late found
      push_cast
      linarith

theorem paced_cons : Paced capacity rate (now :: times) ↔
    (1 ≤ capacity ∧ Covered rate (capacity - 1) now times) ∧ Paced capacity rate times := by
  constructor
  · intro paced
    refine ⟨⟨?_, fun j late found => ?_⟩, fun i j early late le first second => ?_⟩
    · simpa using paced 0 0 now now le_rfl rfl rfl
    · have window := paced 0 (j + 1) now late (Nat.zero_le _) rfl found
      push_cast at window
      linarith
    · have window := paced (i + 1) (j + 1) early late (Nat.succ_le_succ le) first second
      push_cast at window
      linarith
  · rintro ⟨⟨full, covered⟩, rest⟩ (_ | i) (_ | j) early late le first second
    · obtain rfl : now = early := Option.some.inj first
      obtain rfl : now = late := Option.some.inj second
      simpa using full
    · obtain rfl : now = early := Option.some.inj first
      have window := covered j late second
      push_cast
      linarith
    · cases le
    · have window := rest i j early late (Nat.le_of_succ_le_succ le) first second
      push_cast
      linarith

theorem covered_tokensAt : Covered rate (tokensAt capacity rate tokens last now - 1) now times ↔
    Covered rate (tokens - 1) last times ∧ Covered rate (capacity - 1) now times := by
  have level := min_choice (tokens + (now - last) * rate) capacity
  constructor
  · intro covered
    have least := And.intro (min_le_left (tokens + (now - last) * rate) capacity)
      (min_le_right (tokens + (now - last) * rate) capacity)
    refine ⟨fun j late found => ?_, fun j late found => ?_⟩
    · have here := covered j late found
      unfold tokensAt at here
      linarith [least.1]
    · have here := covered j late found
      unfold tokensAt at here
      linarith [least.2]
  · rintro ⟨old, full⟩ j late found
    have before := old j late found
    have after := full j late found
    unfold tokensAt
    rcases level with same | same
    · rw [same]
      linarith
    · rw [same]
      exact after

theorem admits_iff : Admits capacity rate tokens last times ↔
    Covered rate tokens last times ∧ Paced capacity rate times := by
  induction times generalizing tokens last with
  | nil =>
      refine iff_of_true trivial ⟨fun j late found => ?_, fun i j early late le found => ?_⟩
      · cases found
      · cases found
  | cons now times ih =>
      rw [Admits, ih, covered_tokensAt, covered_cons, paced_cons, tokensAt, le_min_iff]
      tauto

theorem admits_full_iff (times : List K) (now : K) :
    Admits capacity rate capacity now (now :: times) ↔ Paced capacity rate (now :: times) := by
  rw [admits_iff, covered_cons, paced_cons, sub_self, zero_mul, add_zero]
  tauto

end

section
variable {T : Type*} [LinearOrder T] {start last now : T} {taken : List T}

def takenSince (time : T) (taken : List T) : Nat := taken.countP fun t => time ≤ t

/-- The tokens taken in a window of time. -/
def within (early late : T) (taken : List T) : Nat := taken.countP fun t => early ≤ t && t ≤ late

theorem takenSince_eq_zero (past : ∀ t ∈ taken, t ≤ last) (later : last < now) : takenSince now taken = 0 := by
  apply List.countP_eq_zero.mpr
  intro t member
  simpa using lt_of_le_of_lt (past t member) later

theorem within_eq_takenSince (past : ∀ t ∈ taken, t ≤ last) (late : last ≤ now) (early : T) :
    within early now taken = takenSince early taken := by
  apply List.countP_congr
  intro t member
  simp [le_trans (past t member) late]

theorem takenSince_cons (le : start ≤ now) (taken : List T) :
    takenSince start (now :: taken) = takenSince start taken + 1 := by
  simp [takenSince, le]

end

/-- A bucket that was full at `start` and has given up `taken`: no window got more than its bound, and
for some window up to the present the tokens left are what the bound leaves. -/
structure Tight (capacity rate start : K) (taken : List K) (tokens last : K) : Prop where
  nonneg : 0 ≤ tokens
  le : tokens ≤ capacity
  past : ∀ t ∈ taken, t ≤ last
  upper : ∀ early, early ≤ last → takenSince early taken + tokens ≤ capacity + (last - early) * rate
  lower : ∃ early, start ≤ early ∧ early ≤ last ∧
    capacity + (last - early) * rate ≤ takenSince early taken + tokens
  window : ∀ early late, early ≤ late → within early late taken ≤ capacity + (late - early) * rate

section
variable {capacity rate start tokens last now : K} {taken : List K}

theorem Tight.full (nonneg : 0 ≤ capacity) (rising : 0 ≤ rate) (start : K) :
    Tight capacity rate start [] capacity start where
  nonneg := nonneg
  le := le_rfl
  past t member := by cases member
  upper early le := by
    have gain := mul_nonneg (sub_nonneg.mpr le) rising
    simpa [takenSince] using gain
  lower := ⟨start, le_rfl, le_rfl, by simp [takenSince]⟩
  window early late le := by
    have gain := mul_nonneg (sub_nonneg.mpr le) rising
    simpa [within] using add_nonneg nonneg gain

theorem Tight.wait (tight : Tight capacity rate start taken tokens last) (rising : 0 ≤ rate)
    (later : last ≤ now) : Tight capacity rate start taken (tokensAt capacity rate tokens last now) now where
  nonneg := by
    have gain := mul_nonneg (sub_nonneg.mpr later) rising
    exact le_min (add_nonneg tight.nonneg gain) (le_trans tight.nonneg tight.le)
  le := min_le_right _ _
  past t member := le_trans (tight.past t member) later
  upper early le := by
    have refilled : tokensAt capacity rate tokens last now ≤ tokens + (now - last) * rate := min_le_left _ _
    have capped : tokensAt capacity rate tokens last now ≤ capacity := min_le_right _ _
    rcases le_or_gt early last with before | after
    · have bound := tight.upper early before
      linarith
    · have gain := mul_nonneg (sub_nonneg.mpr le) rising
      rw [takenSince_eq_zero tight.past after]
      push_cast
      linarith
  lower := by
    obtain ⟨early, after, before, bound⟩ := tight.lower
    rcases min_choice (tokens + (now - last) * rate) capacity with same | same
    · refine ⟨early, after, le_trans before later, ?_⟩
      rw [tokensAt, same]
      linarith
    · refine ⟨now, le_trans (le_trans after before) later, le_rfl, ?_⟩
      have counted : (0 : K) ≤ takenSince now taken := Nat.cast_nonneg _
      rw [tokensAt, same]
      linarith
  window := tight.window

theorem Tight.take (tight : Tight capacity rate start taken tokens now) (enough : 1 ≤ tokens)
    (rising : 0 ≤ rate) : Tight capacity rate start (now :: taken) (tokens - 1) now := by
  have past : ∀ t ∈ now :: taken, t ≤ now := List.forall_mem_cons.mpr ⟨le_rfl, tight.past⟩
  have upper : ∀ early, early ≤ now →
      takenSince early (now :: taken) + (tokens - 1) ≤ capacity + (now - early) * rate := by
    intro early le
    have bound := tight.upper early le
    rw [takenSince_cons le]
    push_cast
    linarith
  refine ⟨sub_nonneg.mpr enough, ?_, past, upper, ?_, ?_⟩
  · have bound := tight.le
    linarith
  · obtain ⟨early, after, before, bound⟩ := tight.lower
    refine ⟨early, after, before, ?_⟩
    rw [takenSince_cons before]
    push_cast
    linarith
  · intro early late le
    rcases lt_or_ge late now with before | after
    · have apart : within early late (now :: taken) = within early late taken := by
        simp [within, not_le.mpr before]
      rw [apart]
      exact tight.window early late le
    · rw [within_eq_takenSince past after]
      rcases le_or_gt early now with inside | outside
      · have bound := upper early inside
        have gain := mul_nonneg (sub_nonneg.mpr after) rising
        linarith
      · have gain := mul_nonneg (sub_nonneg.mpr le) rising
        have room := le_trans tight.nonneg tight.le
        rw [takenSince_eq_zero past outside]
        push_cast
        linarith

theorem Tight.enough_iff (tight : Tight capacity rate start taken tokens now) :
    1 ≤ tokens ↔ ∀ early, start ≤ early → early ≤ now →
      (within early now taken : K) + 1 ≤ capacity + (now - early) * rate := by
  have same := within_eq_takenSince tight.past (le_refl now)
  constructor
  · intro enough early _ before
    have bound := tight.upper early before
    rw [same]
    linarith
  · intro bounded
    obtain ⟨early, after, before, bound⟩ := tight.lower
    have room := bounded early after before
    rw [same] at room
    linarith

end
end RealtimePlatform.Library
