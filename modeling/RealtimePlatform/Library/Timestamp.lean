import Mathlib

/-!
# Timestamps as text

Timestamps in UTC as RFC 3339 writes them, with the digits of the second's fraction that are needed, in
groups of three. Compared as texts they come in the order of the moments, although their lengths differ.
-/

namespace RealtimePlatform.Library

section
variable {α : Type*} [LinearOrder α]

theorem append_lt_append {a b : List α} (same : a.length = b.length) (below : a < b) (s t : List α) :
    a ++ s < b ++ t := by
  induction a generalizing b with
  | nil =>
      cases b with
      | nil => exact absurd below (List.lt_irrefl _)
      | cons _ _ => cases same
  | cons x a ih =>
      cases b with
      | nil => cases same
      | cons y b =>
          rw [List.cons_append, List.cons_append, List.cons_lt_cons_iff]
          rcases List.cons_lt_cons_iff.mp below with first | ⟨equal, rest⟩
          · exact Or.inl first
          · exact Or.inr ⟨equal, ih (Nat.succ.inj same) rest⟩

theorem not_lt_replicate {low : α} {a : List α} {k : Nat} (lowest : ∀ x ∈ a, low ≤ x) (same : a.length = k) :
    ¬ a < List.replicate k low := by
  induction a generalizing k with
  | nil =>
      subst same
      exact List.lt_irrefl _
  | cons x a ih =>
      subst same
      rw [List.length_cons, List.replicate_succ, List.cons_lt_cons_iff, not_or]
      constructor
      · exact not_lt.mpr (lowest x List.mem_cons_self)
      · rintro ⟨_, rest⟩
        exact ih (fun y member => lowest y (List.mem_cons_of_mem x member)) rfl rest

theorem trimmed_lt {low stop : α} {a b : List α} {k l : Nat} (below : stop < low) (lowest : ∀ x ∈ a, low ≤ x)
    (lowest' : ∀ x ∈ b, low ≤ x) (same : a.length + k = b.length + l)
    (less : a ++ List.replicate k low < b ++ List.replicate l low) (s : List α) :
    a ++ stop :: s < b ++ stop :: s := by
  induction a generalizing b with
  | nil =>
      cases b with
      | nil =>
          obtain rfl : k = l := by simpa using same
          exact absurd less (List.lt_irrefl _)
      | cons y b =>
          rw [List.nil_append, List.cons_append, List.cons_lt_cons_iff]
          exact Or.inl (lt_of_lt_of_le below (lowest' y List.mem_cons_self))
  | cons x a ih =>
      cases b with
      | nil =>
          rw [List.nil_append] at less
          refine absurd less (not_lt_replicate ?_ ?_)
          · intro y member
            rcases List.mem_append.mp member with digit | zero
            · exact lowest y digit
            · exact (List.eq_of_mem_replicate zero).ge
          · rw [List.length_append, List.length_replicate, same, List.length_nil, Nat.zero_add]
      | cons y b =>
          rw [List.cons_append, List.cons_append, List.cons_lt_cons_iff] at less ⊢
          rcases less with first | ⟨equal, rest⟩
          · exact Or.inl first
          · refine Or.inr ⟨equal, ih ?_ ?_ ?_ rest⟩
            · exact fun z member => lowest z (List.mem_cons_of_mem x member)
            · exact fun z member => lowest' z (List.mem_cons_of_mem y member)
            · simp only [List.length_cons] at same
              omega

end

def padded : Nat → Nat → List Char
  | 0, _ => []
  | width + 1, n => padded width (n / 10) ++ [Nat.digitChar (n % 10)]

@[simp] theorem length_padded (width n : Nat) : (padded width n).length = width := by
  induction width generalizing n with
  | zero => rfl
  | succ width ih => rw [padded, List.length_append, ih, List.length_singleton]

theorem digitChar_lt : ∀ n < 10, ∀ m < 10, n < m → Nat.digitChar n < Nat.digitChar m := by decide

theorem zero_le_digitChar : ∀ n < 10, '0' ≤ Nat.digitChar n := by decide

theorem zero_le_of_mem_padded {width n : Nat} : ∀ c ∈ padded width n, '0' ≤ c := by
  induction width generalizing n with
  | zero => simp [padded]
  | succ width ih =>
      intro c member
      rw [padded, List.mem_append, List.mem_singleton] at member
      rcases member with before | rfl
      · exact ih c before
      · exact zero_le_digitChar _ (Nat.mod_lt _ (by decide))

theorem padded_lt {width n m : Nat} (less : n < m) (fits : m < 10 ^ width) : padded width n < padded width m := by
  induction width generalizing n m with
  | zero =>
      rw [Nat.pow_zero] at fits
      omega
  | succ width ih =>
      rw [Nat.pow_succ] at fits
      rw [padded, padded]
      rcases Nat.lt_or_eq_of_le (Nat.div_le_div_right (c := 10) less.le) with high | high
      · exact append_lt_append (by simp) (ih high (by omega)) _ _
      · rw [high]
        apply List.append_left_lt
        rw [List.cons_lt_cons_iff]
        exact Or.inl (digitChar_lt _ (Nat.mod_lt _ (by decide)) _ (Nat.mod_lt _ (by decide)) (by omega))

theorem padded_append_lt_iff {width n m : Nat} (fits : n < 10 ^ width) (fits' : m < 10 ^ width) (s t : List Char) :
    padded width n ++ s < padded width m ++ t ↔ n < m ∨ n = m ∧ s < t := by
  rcases Nat.lt_trichotomy n m with less | rfl | more
  · exact iff_of_true (append_lt_append (by simp) (padded_lt less fits') s t) (Or.inl less)
  · rw [or_iff_right (Nat.lt_irrefl n), and_iff_right rfl]
    constructor
    · intro less
      rcases lt_trichotomy s t with below | rfl | above
      · exact below
      · exact absurd less (List.lt_irrefl _)
      · exact absurd (List.append_left_lt above) (List.lt_asymm less)
    · exact fun less => List.append_left_lt less
  · refine iff_of_false (List.lt_asymm (append_lt_append (by simp) (padded_lt more fits) t s)) ?_
    omega

theorem padded_trailing (width k : Nat) {n : Nat} (zeros : n % 10 ^ k = 0) :
    padded (width + k) n = padded width (n / 10 ^ k) ++ List.replicate k '0' := by
  induction k generalizing n with
  | zero => simp
  | succ k ih =>
      rw [Nat.pow_succ] at zeros
      have last : n % 10 = 0 := by
        have divides := Nat.dvd_of_mod_eq_zero zeros
        exact Nat.mod_eq_zero_of_dvd (Nat.dvd_trans (Nat.dvd_mul_left 10 _) divides)
      have rest : n / 10 % 10 ^ k = 0 := by
        obtain ⟨q, rfl⟩ := Nat.dvd_of_mod_eq_zero zeros
        rw [Nat.mul_right_comm, Nat.mul_div_cancel _ (by decide)]
        exact Nat.mul_mod_right _ _
      rw [← Nat.add_assoc, padded, ih rest, last, Nat.div_div_eq_div_mul, Nat.mul_comm 10, ← Nat.pow_succ,
        List.append_assoc, List.replicate_succ']
      rfl

structure Timestamp where
  year : Nat
  month : Nat
  day : Nat
  hour : Nat
  minute : Nat
  second : Nat
  nano : Nat
  yearFits : year < 10 ^ 4
  monthFits : month < 10 ^ 2
  dayFits : day < 10 ^ 2
  hourFits : hour < 10 ^ 2
  minuteFits : minute < 10 ^ 2
  secondFits : second < 10 ^ 2
  nanoFits : nano < 10 ^ 9

namespace Timestamp

/-- The fields of the calendar, the weightiest first: their order is the order of the moments. -/
def fields (t : Timestamp) : List Nat := [t.year, t.month, t.day, t.hour, t.minute, t.second, t.nano]

def fraction (nano : Nat) : List Char :=
  if nano = 0 then []
  else if nano % 10 ^ 6 = 0 then '.' :: padded 3 (nano / 10 ^ 6)
  else if nano % 10 ^ 3 = 0 then '.' :: padded 6 (nano / 10 ^ 3)
  else '.' :: padded 9 nano

def toRfc3339 (t : Timestamp) : List Char :=
  padded 4 t.year ++ '-' :: (padded 2 t.month ++ '-' :: (padded 2 t.day ++ 'T' :: (padded 2 t.hour ++
    ':' :: (padded 2 t.minute ++ ':' :: (padded 2 t.second ++ (fraction t.nano ++ "+00:00".toList))))))

theorem fraction_spec {nano : Nat} (some : nano ≠ 0) : ∃ digits k, fraction nano = '.' :: digits ∧
    digits.length + k = 9 ∧ (∀ c ∈ digits, '0' ≤ c) ∧ padded 9 nano = digits ++ List.replicate k '0' := by
  unfold fraction
  rw [if_neg some]
  split
  · rename_i zeros
    exact ⟨_, 6, rfl, by simp, zero_le_of_mem_padded, padded_trailing 3 6 zeros⟩
  · split
    · rename_i zeros
      exact ⟨_, 3, rfl, by simp, zero_le_of_mem_padded, padded_trailing 6 3 zeros⟩
    · exact ⟨_, 0, rfl, by simp, zero_le_of_mem_padded, by simp⟩

theorem fraction_lt {n m : Nat} (less : n < m) (fits : m < 10 ^ 9) :
    fraction n ++ "+00:00".toList < fraction m ++ "+00:00".toList := by
  obtain ⟨digits, k, written, sized, decimal, whole⟩ := fraction_spec (Nat.ne_zero_of_lt less)
  rw [written]
  by_cases zero : n = 0
  · subst zero
    show '+' :: _ < '.' :: _
    rw [List.cons_lt_cons_iff]
    exact Or.inl (by decide)
  · obtain ⟨digits', k', written', sized', decimal', whole'⟩ := fraction_spec zero
    have order := padded_lt less fits
    rw [whole, whole'] at order
    rw [written', List.cons_append, List.cons_append, List.cons_lt_cons_iff]
    exact Or.inr ⟨rfl, trimmed_lt (show '+' < '0' by decide) decimal' decimal (sized'.trans sized.symm) order _⟩

theorem fraction_lt_iff {n m : Nat} (fits : n < 10 ^ 9) (fits' : m < 10 ^ 9) :
    fraction n ++ "+00:00".toList < fraction m ++ "+00:00".toList ↔ n < m := by
  rcases Nat.lt_trichotomy n m with less | rfl | more
  · exact iff_of_true (fraction_lt less fits') less
  · exact iff_of_false (List.lt_irrefl _) (Nat.lt_irrefl _)
  · exact iff_of_false (List.lt_asymm (fraction_lt more fits)) (Nat.lt_asymm more)

theorem toRfc3339_lt_iff (t u : Timestamp) : t.toRfc3339 < u.toRfc3339 ↔ t.fields < u.fields := by
  simp only [toRfc3339, fields, padded_append_lt_iff t.yearFits u.yearFits,
    padded_append_lt_iff t.monthFits u.monthFits, padded_append_lt_iff t.dayFits u.dayFits,
    padded_append_lt_iff t.hourFits u.hourFits, padded_append_lt_iff t.minuteFits u.minuteFits,
    padded_append_lt_iff t.secondFits u.secondFits, fraction_lt_iff t.nanoFits u.nanoFits,
    List.cons_lt_cons_iff, lt_self_iff_false, true_and, false_or, and_false, or_false]

end Timestamp
end RealtimePlatform.Library
