import Mathlib.Algebra.Field.ZMod
import Mathlib.RingTheory.AdjoinRoot

/-!
# Shift registers and division of polynomials

Words are polynomials over two elements, the bit of value `2 ^ i` being the coefficient of `X ^ i`.
Shifting a register with feedback multiplies by `X` modulo its generator, so that a register fed with
words holds the remainder of a division by the generator. A multiple of the generator is no burst that
the register could hold, and is `X ^ a + X ^ b` only where the register returns to one.
-/

namespace RealtimePlatform.Library.ShiftRegister
open Polynomial

def bit (b : Bool) : ZMod 2 := if b then 1 else 0

theorem bit_xor (a b : Bool) : bit (a ^^ b) = bit a + bit b := by
  cases a <;> cases b <;> decide

theorem bit_injective : Function.Injective bit := by
  intro a b same
  cases a <;> cases b <;> first | rfl | exact absurd same (by decide)

section
variable {w k : Nat}

noncomputable def poly (v : BitVec w) : (ZMod 2)[X] := ∑ i ∈ Finset.range w, C (bit (v.getLsbD i)) * X ^ i

theorem coeff_poly (v : BitVec w) (i : Nat) : (poly v).coeff i = bit (v.getLsbD i) := by
  rw [poly, finsetSum_coeff]
  simp only [coeff_C_mul_X_pow, Finset.sum_ite_eq, Finset.mem_range]
  split
  · rfl
  · rename_i outside
    rw [BitVec.getLsbD_of_ge v i (Nat.le_of_not_lt outside)]
    rfl

theorem degree_poly (v : BitVec w) : (poly v).degree < w := by
  rw [degree_lt_iff_coeff_zero]
  intro i beyond
  rw [coeff_poly, BitVec.getLsbD_of_ge v i beyond]
  rfl

theorem poly_injective : Function.Injective (poly : BitVec w → (ZMod 2)[X]) := by
  intro v u same
  apply BitVec.eq_of_getLsbD_eq
  intro i _
  apply bit_injective
  rw [← coeff_poly, ← coeff_poly, same]

theorem poly_xor (v u : BitVec w) : poly (v ^^^ u) = poly v + poly u := by
  ext i
  rw [coeff_add, coeff_poly, coeff_poly, coeff_poly, BitVec.getLsbD_xor, bit_xor]

theorem poly_one (positive : 0 < w) : poly (1#w) = 1 := by
  ext i
  rw [coeff_poly, BitVec.getLsbD_one, coeff_one]
  cases i <;> simp [bit, positive]

theorem poly_align (b : BitVec k) (fits : k ≤ w) : poly (b.setWidth w <<< (w - k)) = X ^ (w - k) * poly b := by
  ext i
  rw [coeff_poly, coeff_X_pow_mul', coeff_poly, BitVec.getLsbD_shiftLeft, BitVec.getLsbD_setWidth]
  split
  · rename_i above
    by_cases within : i < w
    · have inside : i - (w - k) < w := by omega
      simp [within, Nat.not_lt.mpr above, inside]
    · rw [BitVec.getLsbD_of_ge b (i - (w - k)) (by omega)]
      simp
  · rename_i below
    simp [Nat.lt_of_not_le below, bit]

end

section
variable {w : Nat} (p : BitVec w)

/-- The generator of the register with feedback `p`. -/
noncomputable def generator : (ZMod 2)[X] := X ^ w + poly p

theorem monic_generator : (generator p).Monic := monic_X_pow_add (degree_poly p)

theorem degree_generator : (generator p).degree = w := by
  rw [generator, degree_add_eq_left_of_degree_lt] <;> rw [degree_X_pow]
  exact degree_poly p

def shiftStep (v : BitVec w) : BitVec w := if v.msb then v <<< 1 ^^^ p else v <<< 1

theorem poly_shiftLeft (v : BitVec w) : X * poly v = poly (v <<< 1) + C (bit v.msb) * X ^ w := by
  ext i
  rw [coeff_add, coeff_C_mul_X_pow, coeff_poly, BitVec.getLsbD_shiftLeft, BitVec.msb_eq_getLsbD_last]
  cases i with
  | zero =>
      rw [coeff_X_mul_zero]
      split
      · rename_i empty
        rw [BitVec.getLsbD_of_ge v (w - 1) (by omega)]
        simp [bit]
      · simp [bit]
  | succ i =>
      rw [coeff_X_mul, coeff_poly]
      rcases Nat.lt_trichotomy (i + 1) w with within | last | beyond
      · simp [within, within.ne]
      · subst last
        simp [bit]
      · rw [BitVec.getLsbD_of_ge v i (by omega)]
        simp [beyond.ne', Nat.not_lt.mpr beyond.le]

theorem poly_shiftStep (v : BitVec w) : X * poly v = poly (shiftStep p v) + C (bit v.msb) * generator p := by
  rw [poly_shiftLeft, shiftStep, generator]
  cases v.msb with
  | false => simp [bit]
  | true =>
      have twice : poly p + poly p = 0 := CharTwo.add_self_eq_zero _
      simp only [bit, if_true, C_1, one_mul, poly_xor]
      rw [add_add_add_comm, twice, add_zero]

theorem residue_shiftStep (n : Nat) (v : BitVec w) :
    AdjoinRoot.mk (generator p) (poly ((shiftStep p)^[n] v)) = AdjoinRoot.mk (generator p) (X ^ n * poly v) := by
  induction n generalizing v with
  | zero => simp
  | succ n ih =>
      rw [Function.iterate_succ_apply, ih, pow_succ, mul_assoc, poly_shiftStep, map_mul, map_mul, map_add, map_mul _ (C _),
        AdjoinRoot.mk_self, mul_zero, add_zero]

theorem eq_of_residue {v u : BitVec w}
    (same : AdjoinRoot.mk (generator p) (poly v) = AdjoinRoot.mk (generator p) (poly u)) : v = u := by
  apply poly_injective
  have divides := AdjoinRoot.mk_eq_mk.mp same
  have small : (poly v - poly u).degree < (generator p).degree := by
    rw [degree_generator]
    exact (degree_sub_le _ _).trans_lt (max_lt (degree_poly v) (degree_poly u))
  exact sub_eq_zero.mp (eq_zero_of_dvd_of_degree_lt divides small)

end

/-- The polynomial of bits that come in one after the other, the last one its constant term. -/
noncomputable def ofBits (bits : List Bool) : (ZMod 2)[X] := bits.foldl (fun sum b => X * sum + C (bit b)) 0

def bitsOf {k : Nat} (words : List (BitVec k)) : List Bool :=
  words.flatMap fun word => (List.range k).map word.getMsbD

theorem ofBits_concat (bits : List Bool) (b : Bool) : ofBits (bits ++ [b]) = X * ofBits bits + C (bit b) := by
  rw [ofBits, List.foldl_append]
  rfl

theorem ofBits_append (bits more : List Bool) : ofBits (bits ++ more) = X ^ more.length * ofBits bits + ofBits more := by
  induction more using List.reverseRecOn with
  | nil => simp [ofBits]
  | append_singleton more b ih =>
      rw [← List.append_assoc, ofBits_concat, ih, ofBits_concat, List.length_append, List.length_singleton]
      ring

theorem coeff_ofBits (bits : List Bool) (i : Nat) : (ofBits bits).coeff i = bit (bits.reverse.getD i false) := by
  induction bits using List.reverseRecOn generalizing i with
  | nil => simp [ofBits, bit]
  | append_singleton bits b ih =>
      rw [ofBits_concat, coeff_add, List.reverse_append, List.reverse_singleton, List.singleton_append]
      cases i with
      | zero => simp
      | succ i => simp [ih]

section
variable {w k : Nat}

theorem ofBits_word (b : BitVec k) : ofBits ((List.range k).map b.getMsbD) = poly b := by
  ext i
  rw [coeff_ofBits, coeff_poly]
  congr 1
  rw [List.getD_eq_getElem?_getD]
  by_cases within : i < k
  · have length : i < ((List.range k).map b.getMsbD).length := by simpa using within
    rw [List.getElem?_reverse length]
    have inside : k - 1 - i < k := by omega
    have back : k - 1 - (k - 1 - i) = i := by omega
    simp [inside, BitVec.getMsbD_eq_getLsbD, back]
  · rw [BitVec.getLsbD_of_ge b i (Nat.le_of_not_lt within), List.getElem?_eq_none (by simpa using within)]
    rfl

theorem length_bitsOf (words : List (BitVec k)) : (bitsOf words).length = k * words.length := by
  simp [bitsOf, Nat.mul_comm]

theorem bitsOf_inj {words words' : List (BitVec k)} (length : words.length = words'.length)
    (same : bitsOf words = bitsOf words') : words = words' := by
  induction words generalizing words' with
  | nil => exact (List.length_eq_zero_iff.mp length.symm).symm
  | cons b words ih =>
      cases words' with
      | nil => cases length
      | cons b' words' =>
          obtain ⟨first, rest⟩ := List.append_inj same (by simp)
          rw [ih (Nat.succ.inj length) rest]
          congr 1
          apply BitVec.eq_of_getMsbD_eq
          intro i inside
          exact List.map_inj_left.mp first i (List.mem_range.mpr inside)

theorem ofBits_words (words : List (BitVec k)) (b : BitVec k) :
    ofBits (bitsOf (words ++ [b])) = X ^ k * ofBits (bitsOf words) + poly b := by
  rw [bitsOf, List.flatMap_append, List.flatMap_singleton, ofBits_append, ofBits_word, List.length_map,
    List.length_range]
  rfl

def feed (p v : BitVec w) (b : BitVec k) : BitVec w := (shiftStep p)^[k] (v ^^^ (b.setWidth w <<< (w - k)))

def register (p init : BitVec w) (words : List (BitVec k)) : BitVec w := words.foldl (feed p) init

theorem residue_register (p init : BitVec w) (fits : k ≤ w) (words : List (BitVec k)) :
    AdjoinRoot.mk (generator p) (poly (register p init words)) = AdjoinRoot.mk (generator p)
      (X ^ (k * words.length) * poly init + X ^ w * ofBits (bitsOf words)) := by
  induction words using List.reverseRecOn with
  | nil => simp [register, bitsOf, ofBits]
  | append_singleton words b ih =>
      have last : register p init (words ++ [b]) = feed p (register p init words) b := by
        rw [register, List.foldl_append]
        rfl
      have power : (X : (ZMod 2)[X]) ^ k * X ^ (w - k) = X ^ w := by
        rw [← pow_add, Nat.add_sub_cancel' fits]
      have combined : X ^ k * (X ^ (k * words.length) * poly init + X ^ w * ofBits (bitsOf words)) +
          X ^ k * (X ^ (w - k) * poly b) = X ^ (k * (words.length + 1)) * poly init +
            X ^ w * (X ^ k * ofBits (bitsOf words) + poly b) := by
        rw [← mul_assoc (X ^ k) (X ^ (w - k)), power]
        ring
      rw [last, feed, residue_shiftStep, poly_xor, poly_align b fits, mul_add, map_add, map_mul, ih, ← map_mul,
        ← map_add, combined, ofBits_words, List.length_append, List.length_singleton]

theorem poly_register (p init : BitVec w) (fits : k ≤ w) (words : List (BitVec k)) :
    poly (register p init words) =
      (X ^ (k * words.length) * poly init + X ^ w * ofBits (bitsOf words)) %ₘ generator p := by
  have divides := AdjoinRoot.mk_eq_mk.mp (residue_register p init fits words)
  have small : (poly (register p init words)).degree < (generator p).degree := by
    rw [degree_generator]
    exact degree_poly _
  rw [← (modByMonic_eq_self_iff (monic_generator p)).mpr small]
  exact modByMonic_eq_of_dvd_sub (monic_generator p) divides

end

section
variable {w : Nat} {p : BitVec w}

theorem coprime_generator (odd : p.getLsbD 0 = true) (e : Nat) : IsCoprime (generator p) (X ^ e) := by
  have positive : 0 < w := by
    by_contra empty
    rw [BitVec.getLsbD_of_ge p 0 (by omega)] at odd
    cases odd
  have unit : (generator p).coeff 0 = 1 := by
    rw [generator, coeff_add, coeff_X_pow, if_neg positive.ne, coeff_poly, odd]
    rfl
  refine IsCoprime.pow_right ((irreducible_X.coprime_iff_not_dvd.mpr fun divides => ?_).symm)
  rw [X_dvd_iff, unit] at divides
  exact one_ne_zero divides

theorem eq_zero_of_burst (odd : p.getLsbD 0 = true) {burst : (ZMod 2)[X]} {e : Nat} (divides : generator p ∣ burst)
    (within : ∀ i, burst.coeff i ≠ 0 → e ≤ i ∧ i < e + w) : burst = 0 := by
  obtain ⟨rest, rfl⟩ : X ^ e ∣ burst := by
    rw [X_pow_dvd_iff]
    intro i below
    by_contra nonzero
    exact absurd (within i nonzero).1 (Nat.not_le.mpr below)
  have short : rest.degree < (generator p).degree := by
    rw [degree_generator, degree_lt_iff_coeff_zero]
    intro i beyond
    by_contra nonzero
    have outside := (within (i + e) (by rwa [coeff_X_pow_mul])).2
    omega
  rw [eq_zero_of_dvd_of_degree_lt ((coprime_generator odd e).dvd_of_dvd_mul_left divides) short, mul_zero]

theorem returns_of_pair (odd : p.getLsbD 0 = true) {a m : Nat} (divides : generator p ∣ X ^ a + X ^ (a + m)) :
    (shiftStep p)^[m] 1#w = 1#w := by
  have positive : 0 < w := by
    by_contra empty
    rw [BitVec.getLsbD_of_ge p 0 (by omega)] at odd
    cases odd
  have factored : (X : (ZMod 2)[X]) ^ a + X ^ (a + m) = X ^ a * (X ^ m - 1) := by
    rw [pow_add, sub_eq_add_neg, CharTwo.neg_eq]
    ring
  rw [factored] at divides
  have rest := (coprime_generator odd a).dvd_of_dvd_mul_left divides
  apply eq_of_residue p
  rw [residue_shiftStep, poly_one positive, mul_one]
  exact AdjoinRoot.mk_eq_mk.mpr rest

end

/-- Whether `step` comes back to `home` within `n` steps from `v`. -/
def comesBack {σ : Type*} [DecidableEq σ] (step : σ → σ) (home : σ) : Nat → σ → Bool
  | 0, _ => false
  | n + 1, v => step v = home || comesBack step home n (step v)

theorem comesBack_of_iterate {σ : Type*} [DecidableEq σ] {step : σ → σ} {home v : σ} {n m : Nat} (positive : 0 < m)
    (within : m ≤ n) (back : step^[m] v = home) : comesBack step home n v = true := by
  induction n generalizing v m with
  | zero => omega
  | succ n ih =>
      rw [comesBack, Bool.or_eq_true, decide_eq_true_eq]
      obtain ⟨rest, rfl⟩ := Nat.exists_eq_add_of_lt positive
      rw [Nat.zero_add, Function.iterate_succ_apply] at back
      cases rest with
      | zero => exact Or.inl back
      | succ rest => exact Or.inr (ih (Nat.succ_pos rest) (by omega) back)

end RealtimePlatform.Library.ShiftRegister
