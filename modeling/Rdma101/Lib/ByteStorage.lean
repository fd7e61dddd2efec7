/-
Module: Rdma101.Lib.ByteStorage
Purpose: Fixed-size blocks of memory and the unsigned integers that are stored in them, least
  significant byte first: a read returns what the last write at its place wrote, reads outside a
  write are not affected by it, and a read depends on the bytes of its own place only.
Trusted boundary: none
Main exports: Storage, Storage.read, Storage.write, read_congr, read_write, read_write_of_disjoint,
  Storage.uint64, Storage.uint32, Storage.setUint64, Storage.setUint32
-/
import Mathlib.Data.Fintype.Pi
import Mathlib.Data.Nat.Basic
import Mathlib.Tactic.Ring

/-- A block of `size` bytes. -/
@[ext] structure Storage (size : Nat) where
  bytes : Fin size → UInt8
deriving DecidableEq

namespace Storage

variable {size : Nat}

/-- The byte at `position`; there are only zeros past the end. -/
def byteAt (storage : Storage size) (position : Nat) : UInt8 :=
  if inside : position < size then storage.bytes ⟨position, inside⟩ else 0

/-- The `width` bytes from `offset` on, as one number. -/
def read (storage : Storage size) (offset : Nat) : Nat → Nat
  | 0 => 0
  | width + 1 => (storage.byteAt offset).toNat + 256 * storage.read (offset + 1) width

/-- Overwrite the `width` bytes from `offset` on by the last `width` digits of `value`. -/
def write (storage : Storage size) (offset width value : Nat) : Storage size :=
  ⟨fun position =>
    if offset ≤ position ∧ position < offset + width then
      UInt8.ofNat (value / 256 ^ (position - offset))
    else storage.bytes position⟩

/-- The block of a zero-initialised allocation. -/
def zero : Storage size := ⟨fun _ => 0⟩

theorem byteAt_write {offset width value position : Nat} (storage : Storage size)
    (fits : offset + width ≤ size) :
    (storage.write offset width value).byteAt position =
      if offset ≤ position ∧ position < offset + width then
        UInt8.ofNat (value / 256 ^ (position - offset))
      else storage.byteAt position := by
  by_cases written : offset ≤ position ∧ position < offset + width
  · have inside : position < size := by omega
    simp [byteAt, write, inside, written]
  · by_cases inside : position < size <;> simp [byteAt, write, inside, written]

/-- A read depends on nothing but the bytes of its own place. -/
theorem read_congr {other : Nat} {first : Storage size} {second : Storage other}
    {offset width : Nat}
    (same : ∀ position, offset ≤ position → position < offset + width →
      first.byteAt position = second.byteAt position) :
    first.read offset width = second.read offset width := by
  induction width generalizing offset with
  | zero => rfl
  | succ width inductionHypothesis =>
      have head : first.byteAt offset = second.byteAt offset := same offset (by omega) (by omega)
      have tail : first.read (offset + 1) width = second.read (offset + 1) width := by
        apply inductionHypothesis
        intro position above below
        exact same position (by omega) (by omega)
      rw [read, read, head, tail]

/-- Digits laid out from `offset` on read back as the number they are the digits of. -/
theorem read_of_digits {storage : Storage size} {offset width value : Nat}
    (digits : ∀ index, index < width →
      storage.byteAt (offset + index) = UInt8.ofNat (value / 256 ^ index)) :
    storage.read offset width = value % 256 ^ width := by
  induction width generalizing offset value with
  | zero => simp [read, Nat.mod_one]
  | succ width inductionHypothesis =>
      have head : (storage.byteAt offset).toNat = value % 256 := by
        have first := digits 0 (by omega)
        simp only [Nat.add_zero, pow_zero, Nat.div_one] at first
        rw [first, UInt8.toNat_ofNat']
      have tail : storage.read (offset + 1) width = value / 256 % 256 ^ width := by
        apply inductionHypothesis
        intro index below
        have next := digits (index + 1) (by omega)
        rw [Nat.add_assoc, Nat.add_comm 1 index, next, pow_succ', Nat.div_div_eq_div_mul]
      rw [read, head, tail, pow_succ', Nat.mod_mul]

theorem read_write {offset width value : Nat} (storage : Storage size)
    (fits : offset + width ≤ size) :
    (storage.write offset width value).read offset width = value % 256 ^ width := by
  apply read_of_digits
  intro index below
  have written : offset ≤ offset + index ∧ offset + index < offset + width := by omega
  rw [byteAt_write storage fits, if_pos written, Nat.add_sub_cancel_left]

theorem read_write_of_disjoint {offset width value other otherWidth : Nat}
    (storage : Storage size) (fits : offset + width ≤ size)
    (apart : other + otherWidth ≤ offset ∨ offset + width ≤ other) :
    (storage.write offset width value).read other otherWidth = storage.read other otherWidth := by
  apply read_congr
  intro position above below
  have outside : ¬(offset ≤ position ∧ position < offset + width) := by omega
  rw [byteAt_write storage fits, if_neg outside]

/-! ### The fields of a C structure

Reads and writes of the widths that occur; fields at places apart do not affect each other. -/

def uint64 (storage : Storage size) (offset : Nat) : UInt64 := UInt64.ofNat (storage.read offset 8)

def uint32 (storage : Storage size) (offset : Nat) : UInt32 := UInt32.ofNat (storage.read offset 4)

def setUint64 (storage : Storage size) (offset : Nat) (value : UInt64) : Storage size :=
  storage.write offset 8 value.toNat

def setUint32 (storage : Storage size) (offset : Nat) (value : UInt32) : Storage size :=
  storage.write offset 4 value.toNat

@[simp] theorem uint64_setUint64 {offset : Nat} (storage : Storage size) (value : UInt64)
    (fits : offset + 8 ≤ size) : (storage.setUint64 offset value).uint64 offset = value := by
  have small : value.toNat < 256 ^ 8 := value.toNat_lt
  rw [uint64, setUint64, read_write storage fits, Nat.mod_eq_of_lt small, UInt64.ofNat_toNat]

@[simp] theorem uint32_setUint32 {offset : Nat} (storage : Storage size) (value : UInt32)
    (fits : offset + 4 ≤ size) : (storage.setUint32 offset value).uint32 offset = value := by
  have small : value.toNat < 256 ^ 4 := value.toNat_lt
  rw [uint32, setUint32, read_write storage fits, Nat.mod_eq_of_lt small, UInt32.ofNat_toNat]

theorem uint64_setUint64_of_disjoint {offset other : Nat} (storage : Storage size)
    (value : UInt64) (fits : offset + 8 ≤ size)
    (apart : other + 8 ≤ offset ∨ offset + 8 ≤ other) :
    (storage.setUint64 offset value).uint64 other = storage.uint64 other := by
  rw [uint64, setUint64, read_write_of_disjoint storage fits apart, uint64]

theorem uint64_setUint32_of_disjoint {offset other : Nat} (storage : Storage size)
    (value : UInt32) (fits : offset + 4 ≤ size)
    (apart : other + 8 ≤ offset ∨ offset + 4 ≤ other) :
    (storage.setUint32 offset value).uint64 other = storage.uint64 other := by
  rw [uint64, setUint32, read_write_of_disjoint storage fits apart, uint64]

theorem uint64_congr {first second : Storage size} {offset : Nat}
    (same : ∀ position, offset ≤ position → position < offset + 8 →
      first.byteAt position = second.byteAt position) :
    first.uint64 offset = second.uint64 offset := by
  rw [uint64, uint64, read_congr same]

theorem uint32_congr {first second : Storage size} {offset : Nat}
    (same : ∀ position, offset ≤ position → position < offset + 4 →
      first.byteAt position = second.byteAt position) :
    first.uint32 offset = second.uint32 offset := by
  rw [uint32, uint32, read_congr same]

end Storage
