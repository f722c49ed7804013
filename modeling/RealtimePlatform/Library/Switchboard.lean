import RealtimePlatform.Library.Table

/-!
# Receivers of many senders

A switchboard knows for each receiver the sender it is attached to and the log of what was sent to it
since. The tag is what its owner was told when the receiver was made.
-/

namespace RealtimePlatform.Library

structure Attached (σ τ α : Type*) where
  sender : σ
  tag : τ
  log : List α

structure Switchboard (ρ σ τ α : Type*) where
  receivers : Table ρ (Attached σ τ α)

def Attached.push {σ τ α : Type*} (m : α) (a : Attached σ τ α) : Attached σ τ α :=
  { a with log := a.log ++ [m] }

namespace Switchboard
variable {ρ σ τ α : Type*} [DecidableEq ρ] [DecidableEq σ]

def new : Switchboard ρ σ τ α := ⟨∅⟩

def find (b : Switchboard ρ σ τ α) (r : ρ) : Option (Attached σ τ α) := AList.lookup r b.receivers

def attach (r : ρ) (s : σ) (tag : τ) (b : Switchboard ρ σ τ α) : Switchboard ρ σ τ α :=
  ⟨AList.insert r ⟨s, tag, []⟩ b.receivers⟩

def detach (r : ρ) (b : Switchboard ρ σ τ α) : Switchboard ρ σ τ α := ⟨AList.erase r b.receivers⟩

def send (s : σ) (m : α) (b : Switchboard ρ σ τ α) : Switchboard ρ σ τ α :=
  ⟨Table.rewrite (fun _ a => if a.sender = s then a.push m else a) b.receivers⟩

omit [DecidableEq ρ] [DecidableEq σ] in
/-- How many of the receivers satisfy `p`. -/
def count (p : Attached σ τ α → Bool) (b : Switchboard ρ σ τ α) : Nat :=
  b.receivers.entries.countP fun e => p e.2

def receiverCount (s : σ) (b : Switchboard ρ σ τ α) : Nat := b.count (·.sender = s)

def sendAll (senders : List σ) (m : α) (b : Switchboard ρ σ τ α) : Switchboard ρ σ τ α :=
  senders.foldl (fun b s => b.send s m) b

section
variable {r q : ρ} {s : σ} {tag : τ} {m : α} {b : Switchboard ρ σ τ α}

omit [DecidableEq σ] in
@[simp] theorem find_new : (new : Switchboard ρ σ τ α).find r = none := rfl

omit [DecidableEq σ] in
@[simp] theorem find_attach : (b.attach r s tag).find r = some ⟨s, tag, []⟩ :=
  AList.lookup_insert b.receivers

omit [DecidableEq σ] in
theorem find_attach_ne (apart : q ≠ r) : (b.attach r s tag).find q = b.find q :=
  AList.lookup_insert_ne apart

omit [DecidableEq σ] in
@[simp] theorem find_detach : (b.detach r).find r = none := AList.lookup_erase r b.receivers

omit [DecidableEq σ] in
theorem find_detach_ne (apart : q ≠ r) : (b.detach r).find q = b.find q := AList.lookup_erase_ne apart

@[simp] theorem find_send :
    (b.send s m).find r = (b.find r).map fun a => if a.sender = s then a.push m else a :=
  Table.lookup_rewrite _ r b.receivers

omit [DecidableEq σ] in
theorem find_attach_cases {a : Attached σ τ α} (found : (b.attach r s tag).find q = some a) :
    q = r ∧ a = ⟨s, tag, []⟩ ∨ q ≠ r ∧ b.find q = some a := by
  by_cases same : q = r
  · subst same
    rw [find_attach, Option.some.injEq] at found
    exact Or.inl ⟨rfl, found.symm⟩
  · rw [find_attach_ne same] at found
    exact Or.inr ⟨same, found⟩

omit [DecidableEq σ] in
theorem find_of_detach {a : Attached σ τ α} (found : (b.detach r).find q = some a) :
    q ≠ r ∧ b.find q = some a := by
  by_cases same : q = r
  · subst same
    rw [find_detach] at found
    cases found
  · rw [find_detach_ne same] at found
    exact ⟨same, found⟩

theorem find_send_cases {a : Attached σ τ α} (found : (b.send s m).find r = some a) :
    ∃ old, b.find r = some old ∧ a.sender = old.sender ∧ a.tag = old.tag ∧
      (old.sender = s ∧ a.log = old.log ++ [m] ∨ old.sender ≠ s ∧ a.log = old.log) := by
  rw [find_send, Option.map_eq_some_iff] at found
  obtain ⟨old, there, rfl⟩ := found
  refine ⟨old, there, ?_⟩
  by_cases here : old.sender = s
  · rw [if_pos here]
    exact ⟨rfl, rfl, Or.inl ⟨here, rfl⟩⟩
  · rw [if_neg here]
    exact ⟨rfl, rfl, Or.inr ⟨here, rfl⟩⟩

omit [DecidableEq σ] in
theorem mem_receivers {a : Attached σ τ α} : ⟨r, a⟩ ∈ b.receivers.entries ↔ b.find r = some a :=
  AList.mem_lookup_iff.symm

omit [DecidableEq σ] in
theorem count_congr {p p' : Attached σ τ α → Bool}
    (same : ∀ r a, b.find r = some a → p a = p' a) : b.count p = b.count p' := by
  refine List.countP_congr fun e member => ?_
  rw [same e.1 e.2 (mem_receivers.mp member)]

omit [DecidableEq σ] in
theorem count_eq_zero {p : Attached σ τ α → Bool} :
    b.count p = 0 ↔ ∀ r a, b.find r = some a → p a = false := by
  rw [count, List.countP_eq_zero]
  constructor
  · intro none r a found
    exact Bool.eq_false_iff.mpr (none ⟨r, a⟩ (mem_receivers.mpr found))
  · intro none e member
    exact Bool.eq_false_iff.mp (none e.1 e.2 (mem_receivers.mp member))

theorem receiverCount_eq_zero :
    b.receiverCount s = 0 ↔ ∀ r a, b.find r = some a → a.sender ≠ s := by
  simp only [receiverCount, count_eq_zero, decide_eq_false_iff_not, ne_eq]

omit [DecidableEq ρ] in
theorem count_send {p : Attached σ τ α → Bool} (blind : ∀ a, p (a.push m) = p a) :
    (b.send s m).count p = b.count p := by
  simp only [count, send, Table.rewrite, List.countP_map, Function.comp_def]
  refine List.countP_congr fun e _ => ?_
  split
  · rw [blind]
  · rfl

omit [DecidableEq ρ] in
@[simp] theorem receiverCount_send (t : σ) : (b.send s m).receiverCount t = b.receiverCount t :=
  count_send fun _ => rfl

theorem find_sendAll {senders : List σ} (distinct : senders.Nodup) :
    (b.sendAll senders m).find r =
      (b.find r).map fun a => if a.sender ∈ senders then a.push m else a := by
  induction senders generalizing b with
  | nil => simp [sendAll]
  | cons s senders ih =>
      obtain ⟨fresh, others⟩ := List.nodup_cons.mp distinct
      have rest := @ih (b.send s m) others
      rw [sendAll, List.foldl_cons]
      refine rest.trans ?_
      rw [find_send, Option.map_map]
      refine congrArg (Option.map · (b.find r)) (funext fun a => ?_)
      by_cases here : a.sender = s
      · have absent : (a.push m).sender ∉ senders := here ▸ fresh
        simp [here, absent]
      · simp [here]

omit [DecidableEq ρ] [DecidableEq σ] in
theorem count_or {p q : Attached σ τ α → Bool} (apart : ∀ a, p a = true → q a = false) :
    b.count (fun a => p a || q a) = b.count p + b.count q := by
  unfold count
  induction b.receivers.entries with
  | nil => rfl
  | cons e entries ih =>
      rw [List.countP_cons, List.countP_cons, List.countP_cons, ih]
      cases first : p e.2 with
      | true => simp [first, apart e.2 first, Nat.add_right_comm]
      | false => simp [first, Nat.add_assoc]

omit [DecidableEq ρ] in
theorem sum_receiverCount {senders : List σ} (distinct : senders.Nodup) :
    (senders.map fun s => b.receiverCount s).sum = b.count fun a => decide (a.sender ∈ senders) := by
  induction senders with
  | nil => simp [count]
  | cons s senders ih =>
      obtain ⟨fresh, others⟩ := List.nodup_cons.mp distinct
      rw [List.map_cons, List.sum_cons, ih others, receiverCount, ← count_or]
      · simp only [List.mem_cons, Bool.decide_or]
      · intro a here
        rw [of_decide_eq_true here]
        exact decide_eq_false fresh

end

end Switchboard
end RealtimePlatform.Library
