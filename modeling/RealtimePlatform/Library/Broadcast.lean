import RealtimePlatform.Library.Table

/-!
# Broadcast buses

A bus delivers every message to each receiver attached when it is sent. A receiver is kept as the
log of all messages sent to it since it attached; what its owner has consumed is a position in that
log, and the bus retains only the last `capacity` messages for a receiver that falls behind.
-/

namespace RealtimePlatform.Library

structure Bus (ρ α : Type*) where
  receivers : Table ρ (List α)

inductive Received (α : Type*) where
  | message (m : α)
  | lagged
  | empty
  | closed

def Received.isOver {α : Type*} : Received α → Bool
  | lagged | closed => true
  | message _ | empty => false

namespace Bus
variable {ρ α : Type*} [DecidableEq ρ]

def new : Bus ρ α := ⟨∅⟩

def subscribe (r : ρ) (b : Bus ρ α) : Bus ρ α := ⟨AList.insert r [] b.receivers⟩

def receiverCount (b : Bus ρ α) : Nat := b.receivers.entries.length

/-- The bus after a send, and the number of receivers; `none` when nobody is attached. -/
def send (m : α) (b : Bus ρ α) : Option Nat × Bus ρ α :=
  (if b.receiverCount = 0 then none else some b.receiverCount,
    ⟨Table.rewrite (fun _ log => log ++ [m]) b.receivers⟩)

def detach (r : ρ) (b : Bus ρ α) : Bus ρ α := ⟨AList.erase r b.receivers⟩

/-- Everything sent to `r` since it attached. -/
def sent (b : Bus ρ α) (r : ρ) : Option (List α) := AList.lookup r b.receivers

/-- What a receiver that has consumed `next` messages of its log gets next. -/
def receive (capacity : Nat) (b : Bus ρ α) (r : ρ) (next : Nat) : Received α :=
  match b.sent r with
  | none => .closed
  | some log =>
    if capacity < log.length - next then .lagged
    else match log[next]? with
      | some m => .message m
      | none => .empty

@[simp] theorem sent_new (r : ρ) : (new : Bus ρ α).sent r = none := rfl

@[simp] theorem sent_subscribe (r : ρ) (b : Bus ρ α) : (b.subscribe r).sent r = some [] :=
  AList.lookup_insert b.receivers

theorem sent_subscribe_ne {r q : ρ} (b : Bus ρ α) (apart : q ≠ r) :
    (b.subscribe r).sent q = b.sent q :=
  AList.lookup_insert_ne apart

@[simp] theorem sent_send (m : α) (b : Bus ρ α) (r : ρ) :
    (b.send m).2.sent r = (b.sent r).map (· ++ [m]) :=
  Table.lookup_rewrite _ r b.receivers

@[simp] theorem sent_detach (r : ρ) (b : Bus ρ α) : (b.detach r).sent r = none :=
  AList.lookup_erase r b.receivers

theorem sent_detach_ne {r q : ρ} (b : Bus ρ α) (apart : q ≠ r) : (b.detach r).sent q = b.sent q :=
  AList.lookup_erase_ne apart

omit [DecidableEq ρ] in
@[simp] theorem receiverCount_send (m : α) (b : Bus ρ α) : (b.send m).2.receiverCount = b.receiverCount := by
  simp [send, receiverCount, Table.rewrite]

theorem receiverCount_pos {b : Bus ρ α} {r : ρ} {log : List α} (attached : b.sent r = some log) :
    0 < b.receiverCount := by
  have member : r ∈ b.receivers := AList.lookup_isSome.mp (Option.isSome_of_eq_some attached)
  obtain ⟨entry, there, _⟩ := List.mem_map.mp (AList.mem_keys.mp member)
  exact List.length_pos_of_mem there

theorem receiverCount_eq_zero_iff {b : Bus ρ α} : b.receiverCount = 0 ↔ ∀ r, b.sent r = none := by
  constructor
  · intro nobody r
    cases attached : b.sent r with
    | none => rfl
    | some log => exact absurd nobody (receiverCount_pos attached).ne'
  · intro nobody
    cases entries : b.receivers.entries with
    | nil => simp [receiverCount, entries]
    | cons entry rest =>
        have member : entry ∈ b.receivers.entries := by simp [entries]
        have attached : b.sent entry.1 = some entry.2 := AList.mem_lookup_iff.mpr member
        rw [nobody] at attached
        cases attached

theorem mem_of_receive {capacity next : Nat} {b : Bus ρ α} {r : ρ} {m : α}
    (got : b.receive capacity r next = .message m) : ∃ log, b.sent r = some log ∧ m ∈ log := by
  unfold receive at got
  split at got
  · cases got
  · rename_i log attached
    split at got
    · cases got
    · split at got
      · rename_i found
        cases got
        exact ⟨log, attached, List.mem_of_getElem? found⟩
      · cases got

end Bus
end RealtimePlatform.Library
