import Mathlib.Data.List.AList
import Mathlib.Algebra.BigOperators.Group.List.Basic
import Mathlib.Algebra.GroupWithZero.Nat

/-!
# Concurrent maps as tables

A table is an association list with unique keys, read through `lookup`; no result depends on the
order of its entries except where an enumeration is asked for.
-/

namespace RealtimePlatform.Library

abbrev Table (κ ν : Type*) := AList (fun _ : κ => ν)

theorem nodup_concat {α : Type*} {a : α} {l : List α} (nodup : l.Nodup) (absent : a ∉ l) :
    (l ++ [a]).Nodup := by
  have same := List.Nodup.concat absent nodup
  rwa [List.concat_eq_append] at same

theorem countP_eq_sum_filter {κ α : Type*} [DecidableEq κ] {keys : List κ} (nodup : keys.Nodup)
    {l : List (κ × α)} (within : ∀ e ∈ l, e.1 ∈ keys) (p : κ × α → Bool) :
    l.countP p = (keys.map fun k => (l.filter fun e => e.1 = k).countP p).sum := by
  induction l with
  | nil => simp
  | cons e l ih =>
      have first : ∀ k, ((e :: l).filter fun e => e.1 = k).countP p =
          (l.filter fun e => e.1 = k).countP p + if k = e.1 then (if p e then 1 else 0) else 0 := by
        intro k
        by_cases own : e.1 = k
        · rw [List.filter_cons_of_pos (by simpa using own), List.countP_cons, if_pos own.symm]
        · rw [List.filter_cons_of_neg (by simpa using own), if_neg (Ne.symm own), Nat.add_zero]
      have own : (keys.map fun k => if k = e.1 then (if p e then 1 else 0) else 0).sum =
          if p e then 1 else 0 := by
        have once := List.count_eq_one_of_mem nodup (within e List.mem_cons_self)
        rw [List.sum_map_ite, List.filter_eq, once]
        simp
      simp only [first]
      rw [List.sum_map_add, own, List.countP_cons, ih fun d member => within d (List.mem_cons_of_mem e member)]

namespace Table
variable {κ ν : Type*} [DecidableEq κ]

/-- The entry of `k`, created from `fresh` when absent, rewritten by `f`. -/
def upsert (k : κ) (fresh : ν) (f : ν → ν) (t : Table κ ν) : Table κ ν :=
  AList.insert k (f ((AList.lookup k t).getD fresh)) t

/-- The entry of `k`, if present, rewritten by `f`. -/
def adjust (k : κ) (f : ν → ν) (t : Table κ ν) : Table κ ν :=
  match AList.lookup k t with
  | none => t
  | some v => AList.insert k (f v) t

/-- The entries that satisfy `p`. -/
def retain (p : κ → ν → Bool) (t : Table κ ν) : Table κ ν :=
  ⟨t.entries.filter fun e => p e.1 e.2, t.nodupKeys.sublist List.filter_sublist⟩

/-- Every entry rewritten by `f`. -/
def rewrite (f : κ → ν → ν) (t : Table κ ν) : Table κ ν :=
  ⟨t.entries.map fun e => ⟨e.1, f e.1 e.2⟩, by
    have keys : (t.entries.map fun e => (⟨e.1, f e.1 e.2⟩ : Sigma fun _ : κ => ν)).keys =
        t.entries.keys := by
      simp [List.keys, Function.comp_def]
    rw [List.NodupKeys, keys]
    exact t.nodupKeys⟩

@[simp] theorem lookup_upsert (k : κ) (fresh : ν) (f : ν → ν) (t : Table κ ν) :
    AList.lookup k (upsert k fresh f t) = some (f ((AList.lookup k t).getD fresh)) :=
  AList.lookup_insert t

theorem lookup_upsert_ne {k l : κ} (fresh : ν) (f : ν → ν) (t : Table κ ν) (apart : l ≠ k) :
    AList.lookup l (upsert k fresh f t) = AList.lookup l t :=
  AList.lookup_insert_ne apart

@[simp] theorem lookup_adjust (k : κ) (f : ν → ν) (t : Table κ ν) :
    AList.lookup k (adjust k f t) = (AList.lookup k t).map f := by
  unfold adjust
  cases found : AList.lookup k t <;> simp [found]

theorem lookup_adjust_ne {k l : κ} (f : ν → ν) (t : Table κ ν) (apart : l ≠ k) :
    AList.lookup l (adjust k f t) = AList.lookup l t := by
  unfold adjust
  cases AList.lookup k t
  · rfl
  · exact AList.lookup_insert_ne apart

theorem lookup_of_lookup_erase {k l : κ} {v : ν} {t : Table κ ν}
    (found : AList.lookup l (AList.erase k t) = some v) : l ≠ k ∧ AList.lookup l t = some v := by
  by_cases same : l = k
  · subst same
    rw [AList.lookup_erase] at found
    cases found
  · rw [AList.lookup_erase_ne same] at found
    exact ⟨same, found⟩

theorem lookup_retain (p : κ → ν → Bool) (k : κ) (t : Table κ ν) :
    AList.lookup k (retain p t) = (AList.lookup k t).filter (p k) := by
  apply Option.ext
  intro v
  rw [Option.filter_eq_some_iff]
  exact (AList.mem_lookup_iff.trans List.mem_filter).trans
    (and_congr_left' AList.mem_lookup_iff.symm)

@[simp] theorem lookup_rewrite (f : κ → ν → ν) (k : κ) (t : Table κ ν) :
    AList.lookup k (rewrite f t) = (AList.lookup k t).map (f k) := by
  apply Option.ext
  intro v
  rw [Option.map_eq_some_iff]
  refine AList.mem_lookup_iff.trans ?_
  simp only [rewrite, List.mem_map, Sigma.mk.injEq, heq_eq_eq]
  constructor
  · rintro ⟨e, member, rfl, rfl⟩
    exact ⟨e.2, AList.mem_lookup_iff.mpr member, rfl⟩
  · rintro ⟨w, found, rfl⟩
    exact ⟨⟨k, w⟩, AList.mem_lookup_iff.mp found, rfl, rfl⟩

def relabel {κ' ν' : Type*} (g : κ → κ') (injective : Function.Injective g) (f : ν → ν') (t : Table κ ν) :
    Table κ' ν' :=
  ⟨t.entries.map fun e => ⟨g e.1, f e.2⟩, by
    have keys : (t.entries.map fun e => (⟨g e.1, f e.2⟩ : Sigma fun _ : κ' => ν')).keys =
        t.entries.keys.map g := by
      simp [List.keys, Function.comp_def]
    rw [List.NodupKeys, keys]
    exact (List.nodup_map_iff injective).mpr t.nodupKeys⟩

theorem lookup_relabel {κ' ν' : Type*} [DecidableEq κ'] {g : κ → κ'} (injective : Function.Injective g)
    (f : ν → ν') (k : κ) (t : Table κ ν) :
    AList.lookup (g k) (relabel g injective f t) = (AList.lookup k t).map f := by
  apply Option.ext
  intro v
  rw [Option.map_eq_some_iff]
  refine AList.mem_lookup_iff.trans ?_
  simp only [relabel, List.mem_map, Sigma.mk.injEq, heq_eq_eq]
  constructor
  · rintro ⟨e, member, same, rfl⟩
    exact ⟨e.2, AList.mem_lookup_iff.mpr (injective same ▸ member), rfl⟩
  · rintro ⟨w, found, rfl⟩
    exact ⟨⟨k, w⟩, AList.mem_lookup_iff.mp found, rfl, rfl⟩

theorem entries_filter_perm {t u : Table κ ν} (p : κ → Bool)
    (agree : ∀ k, p k = true → AList.lookup k t = AList.lookup k u) :
    (t.entries.filter fun e => p e.1).Perm (u.entries.filter fun e => p e.1) := by
  have same : ∀ k, AList.lookup k (retain (fun k _ => p k) t) =
      AList.lookup k (retain (fun k _ => p k) u) := by
    intro k
    rw [lookup_retain, lookup_retain]
    cases chosen : p k
    · cases AList.lookup k t <;> cases AList.lookup k u <;> rfl
    · rw [agree k chosen]
  exact List.lookup_ext (retain (fun k _ => p k) t).nodupKeys (retain (fun k _ => p k) u).nodupKeys
    fun k v => Iff.of_eq (congrArg (v ∈ ·) (same k))

theorem mem_of_full {ν : Type*} {t : Table Nat ν} {n : Nat}
    (within : ∀ k v, AList.lookup k t = some v → k < n) (full : n ≤ t.keys.length) {i : Nat} (inside : i < n) :
    i ∈ t := by
  have subset : t.keys ⊆ List.range n := by
    intro k member
    obtain ⟨v, found⟩ := Option.isSome_iff_exists.mp (AList.lookup_isSome.mpr member)
    exact List.mem_range.mpr (within k v found)
  have nodup : t.keys.Nodup := t.nodupKeys
  have perm := (List.subperm_of_subset nodup subset).perm_of_length_le (by rwa [List.length_range])
  exact perm.mem_iff.mpr (List.mem_range.mpr inside)

end Table
end RealtimePlatform.Library
