import Mathlib.Order.Basic
import Mathlib.Algebra.Order.Group.Int

/-!
# The greatest index with a property, by bisection

The loop keeps the greatest index known to have the property and halves the interval in which a greater
one may lie.
-/

namespace RealtimePlatform.Library

def bisect (p : Int → Bool) (lo hi best : Int) : Int :=
  if lo ≤ hi then
    if p ((lo + hi) / 2) then bisect p ((lo + hi) / 2 + 1) hi ((lo + hi) / 2)
    else bisect p lo ((lo + hi) / 2 - 1) best
  else best
termination_by (hi + 1 - lo).toNat
decreasing_by all_goals omega

theorem bisect_spec {p : Int → Bool} (downward : ∀ i j, i ≤ j → p j = true → p i = true)
    {lo hi best : Int} (below : best < lo) :
    (bisect p lo hi best = best ∨
      lo ≤ bisect p lo hi best ∧ bisect p lo hi best ≤ hi ∧ p (bisect p lo hi best) = true) ∧
    ∀ i, lo ≤ i → i ≤ hi → p i = true → i ≤ bisect p lo hi best := by
  fun_induction bisect p lo hi best with
  | case1 lo hi best inside holds ih =>
      obtain ⟨found, greatest⟩ := ih (by omega)
      constructor
      · rcases found with same | ⟨above, le, held⟩
        · rw [same]
          exact Or.inr ⟨by omega, by omega, holds⟩
        · exact Or.inr ⟨by omega, le, held⟩
      · intro i above le held
        by_cases upper : (lo + hi) / 2 + 1 ≤ i
        · exact greatest i upper le held
        · rcases found with same | ⟨bound, _, _⟩ <;> omega
  | case2 lo hi best inside fails ih =>
      obtain ⟨found, greatest⟩ := ih below
      constructor
      · rcases found with same | ⟨above, le, held⟩
        · exact Or.inl same
        · exact Or.inr ⟨above, by omega, held⟩
      · intro i above le held
        by_cases lower : i ≤ (lo + hi) / 2 - 1
        · exact greatest i above lower held
        · exact absurd (downward _ i (by omega) held) fails
  | case3 lo hi best outside =>
      refine ⟨Or.inl rfl, ?_⟩
      intro i above le
      omega

theorem bisect_eq {p : Int → Bool} (downward : ∀ i j, i ≤ j → p j = true → p i = true) {n k : Int}
    (pos : 1 ≤ k) (le : k ≤ n) (holds : p k = true) (last : k = n ∨ p (k + 1) = false) :
    bisect p 1 n 0 = k := by
  obtain ⟨found, greatest⟩ := @bisect_spec _ downward 1 n 0 Int.zero_lt_one
  have lower := greatest k pos le holds
  rcases found with none | ⟨_, bound, held⟩
  · omega
  · rcases last with rfl | stops
    · omega
    · by_contra other
      have further := downward (k + 1) _ (by omega) held
      rw [stops] at further
      cases further

end RealtimePlatform.Library
