import Mathlib

/-!
# Byte strings

Ranges of a byte string as Rust's slices have them, and the numbers that their bytes stand for, with
the least significant byte first.
-/

namespace MakopaVerified.Foundation

variable {α : Type}

/-- `slice.get(start..stop)`. -/
def getRange (items : List α) (start stop : Nat) : Option (List α) :=
  if start ≤ stop ∧ stop ≤ items.length then some ((items.drop start).take (stop - start)) else none

theorem getRange_of_le {items : List α} {start stop : Nat} (h : start ≤ stop)
    (hstop : stop ≤ items.length) :
    getRange items start stop = some ((items.drop start).take (stop - start)) :=
  if_pos ⟨h, hstop⟩

theorem length_of_getRange {items part : List α} {start stop : Nat}
    (h : getRange items start stop = some part) : part.length = stop - start := by
  unfold getRange at h
  split at h
  · rename_i hle
    obtain rfl := Option.some.inj h
    rw [List.length_take, List.length_drop]
    omega
  · cases h

/-- The number with these bytes, the least significant one first. -/
def fromLe : List UInt8 → Nat
  | [] => 0
  | byte :: bytes => byte.toNat + 256 * fromLe bytes

theorem fromLe_lt (bytes : List UInt8) : fromLe bytes < 256 ^ bytes.length := by
  induction bytes with
  | nil => exact Nat.one_pos
  | cons byte bytes ih =>
    have hbyte : byte.toNat < 256 := byte.toNat_lt
    rw [fromLe, List.length_cons, pow_succ]
    omega

/-- `n` as `width` bytes, the least significant one first. -/
def toLe : Nat → Nat → List UInt8
  | 0, _ => []
  | width + 1, n => UInt8.ofNat (n % 256) :: toLe width (n / 256)

@[simp] theorem length_toLe (width n : Nat) : (toLe width n).length = width := by
  induction width generalizing n with
  | zero => rfl
  | succ width ih => rw [toLe, List.length_cons, ih]

theorem fromLe_toLe {width n : Nat} (h : n < 256 ^ width) : fromLe (toLe width n) = n := by
  induction width generalizing n with
  | zero =>
    rw [pow_zero] at h
    rw [toLe, fromLe]
    omega
  | succ width ih =>
    rw [pow_succ] at h
    have byte : (UInt8.ofNat (n % 256)).toNat = n % 256 :=
      UInt8.toNat_ofNat_of_lt (Nat.mod_lt _ (by decide))
    rw [toLe, fromLe, ih (by omega), byte]
    omega

/-- Bytes are those of their number, in their width. -/
theorem toLe_fromLe (bytes : List UInt8) : toLe bytes.length (fromLe bytes) = bytes := by
  induction bytes with
  | nil => rfl
  | cons byte bytes ih =>
    have hbyte : byte.toNat < 256 := byte.toNat_lt
    have low : (byte.toNat + 256 * fromLe bytes) % 256 = byte.toNat := by omega
    have high : (byte.toNat + 256 * fromLe bytes) / 256 = fromLe bytes := by omega
    rw [fromLe, List.length_cons, toLe, low, high, ih, UInt8.ofNat_toNat]

/-- The number that stands at an offset. -/
def leAt (bytes : List UInt8) (offset width : Nat) : Nat :=
  fromLe ((bytes.drop offset).take width)

theorem leAt_lt (bytes : List UInt8) (offset width : Nat) : leAt bytes offset width < 256 ^ width := by
  refine (fromLe_lt _).trans_le (Nat.pow_le_pow_right (by decide) ?_)
  rw [List.length_take]
  exact Nat.min_le_left _ _

end MakopaVerified.Foundation
