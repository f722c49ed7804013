import Mathlib.Algebra.Group.Nat.Defs
import Mathlib.Data.List.Induction

/-!
# Writing into buffers

A number is written with its high byte first; a buffer that starts zeroed is filled from its start.
-/

namespace RealtimePlatform.Library

def bigEndian : Nat → Nat → List UInt8
  | 0, _ => []
  | width + 1, n => bigEndian width (n / 256) ++ [UInt8.ofNat n]

def ofBigEndian (bytes : List UInt8) : Nat := bytes.foldl (fun n byte => n * 256 + byte.toNat) 0

@[simp] theorem length_bigEndian (width n : Nat) : (bigEndian width n).length = width := by
  induction width generalizing n with
  | zero => rfl
  | succ width ih => rw [bigEndian, List.length_append, ih, List.length_singleton]

theorem ofBigEndian_concat (bytes : List UInt8) (byte : UInt8) :
    ofBigEndian (bytes ++ [byte]) = ofBigEndian bytes * 256 + byte.toNat := by
  simp [ofBigEndian]

theorem ofBigEndian_lt (bytes : List UInt8) : ofBigEndian bytes < 256 ^ bytes.length := by
  induction bytes using List.reverseRecOn with
  | nil => exact Nat.one_pos
  | append_singleton bytes byte ih =>
      have bound := byte.toNat_lt
      rw [ofBigEndian_concat, List.length_append, List.length_singleton, Nat.pow_succ]
      omega

theorem bigEndian_ofBigEndian (bytes : List UInt8) :
    bigEndian bytes.length (ofBigEndian bytes) = bytes := by
  induction bytes using List.reverseRecOn with
  | nil => rfl
  | append_singleton bytes byte ih =>
      have bound := byte.toNat_lt
      have high : (ofBigEndian bytes * 256 + byte.toNat) / 256 = ofBigEndian bytes := by omega
      have low : UInt8.ofNat (ofBigEndian bytes * 256 + byte.toNat) = byte := by
        apply UInt8.toNat_inj.mp
        rw [UInt8.toNat_ofNat']
        omega
      rw [ofBigEndian_concat, List.length_append, List.length_singleton, bigEndian, high, low, ih]

def overwrite (off : Nat) (bytes buf : List UInt8) : List UInt8 :=
  buf.take off ++ bytes ++ buf.drop (off + bytes.length)

def filled (size : Nat) (written : List UInt8) : List UInt8 :=
  written ++ List.replicate (size - written.length) 0

theorem filled_nil (size : Nat) : filled size [] = List.replicate size 0 := rfl

theorem filled_full {size : Nat} {written : List UInt8} (full : written.length = size) :
    filled size written = written := by
  rw [filled, full, Nat.sub_self, List.replicate_zero, List.append_nil]

theorem take_filled {size off : Nat} {written : List UInt8} (here : written.length = off) :
    (filled size written).take off = written := by
  rw [filled, ← here, List.take_left]

theorem overwrite_filled {size off : Nat} {written bytes : List UInt8} (here : written.length = off) :
    overwrite off bytes (filled size written) = filled size (written ++ bytes) := by
  rw [overwrite, take_filled here, filled, filled, ← here, List.drop_append, List.drop_of_length_le (by omega),
    List.nil_append, List.drop_replicate, List.length_append]
  congr 2
  omega

structure ByteBuffer where
  array : List UInt8
  position : Nat

namespace ByteBuffer

def allocate (size : Nat) : ByteBuffer := ⟨List.replicate size 0, 0⟩

def put (buf : ByteBuffer) (bytes : List UInt8) : ByteBuffer :=
  ⟨overwrite buf.position bytes buf.array, buf.position + bytes.length⟩

/-- The buffer of a size after some bytes have been put. -/
def after (size : Nat) (written : List UInt8) : ByteBuffer := ⟨filled size written, written.length⟩

@[simp] theorem array_after (size : Nat) (written : List UInt8) :
    (after size written).array = filled size written := rfl

theorem allocate_eq (size : Nat) : allocate size = after size [] := rfl

@[simp] theorem put_after (size : Nat) (written bytes : List UInt8) :
    (after size written).put bytes = after size (written ++ bytes) := by
  rw [after, put, overwrite_filled rfl, after, List.length_append]

end ByteBuffer
end RealtimePlatform.Library
