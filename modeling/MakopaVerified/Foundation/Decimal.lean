import Mathlib

/-!
# Decimal numbers

The decimal text of a number, in ASCII. It is the only text with that value that is made of digits and
does not begin with a superfluous zero.
-/

namespace MakopaVerified.Foundation

open List

/-- The decimal text of a number. -/
def decimalText (n : Nat) : List UInt8 := (Nat.toDigits 10 n).map fun c => UInt8.ofNat c.toNat

/-- The value of digits that follow a number. -/
def decimalFrom (value : Nat) (digits : List UInt8) : Nat :=
  digits.foldl (fun value digit => value * 10 + (digit.toNat - 0x30)) value

def IsDigit (byte : UInt8) : Prop := 0x30 ≤ byte.toNat ∧ byte.toNat ≤ 0x39

/-- Digits without a superfluous zero. -/
structure CanonicalDecimal (text : List UInt8) : Prop where
  nonempty : text ≠ []
  digits : ∀ byte ∈ text, IsDigit byte
  leading : text.length > 1 → text.head? ≠ some 0x30

theorem decimalText_of_lt {n : Nat} (h : n < 10) : decimalText n = [UInt8.ofNat (0x30 + n)] := by
  rw [decimalText, Nat.toDigits_of_lt_base h, map_singleton, Nat.toNat_digitChar_of_lt_ten h]

/-- One more digit. -/
theorem decimalText_snoc {n d : Nat} (positive : 0 < n) (h : d < 10) :
    decimalText n ++ [UInt8.ofNat (0x30 + d)] = decimalText (10 * n + d) := by
  rw [← decimalText_of_lt h]
  unfold decimalText
  rw [← map_append, Nat.toDigits_append_toDigits (by decide) positive h]

theorem IsDigit.eq_ofNat {byte : UInt8} (h : IsDigit byte) :
    byte = UInt8.ofNat (0x30 + (byte.toNat - 0x30)) := by
  rw [Nat.add_sub_cancel' h.1, UInt8.ofNat_toNat]

/-- Digits behind a positive number make the text of the value. -/
theorem decimalText_append {value : Nat} {digits : List UInt8} (positive : 0 < value)
    (h : ∀ byte ∈ digits, IsDigit byte) :
    decimalText value ++ digits = decimalText (decimalFrom value digits) := by
  induction digits generalizing value with
  | nil => rw [append_nil, decimalFrom, foldl_nil]
  | cons digit digits ih =>
    rw [forall_mem_cons] at h
    have small : digit.toNat - 0x30 < 10 := by
      have := h.1.2
      omega
    have next : value * 10 + (digit.toNat - 0x30) = 10 * value + (digit.toNat - 0x30) := by ring
    calc decimalText value ++ digit :: digits
        = (decimalText value ++ [UInt8.ofNat (0x30 + (digit.toNat - 0x30))]) ++ digits := by
          rw [← h.1.eq_ofNat, append_assoc, singleton_append]
      _ = decimalText (value * 10 + (digit.toNat - 0x30)) ++ digits := by
          rw [decimalText_snoc positive small, next]
      _ = decimalText (decimalFrom value (digit :: digits)) := ih (by omega) h.2

/-- A canonical text is the text of its value. -/
theorem CanonicalDecimal.eq_decimalText {text : List UInt8} (h : CanonicalDecimal text) :
    text = decimalText (decimalFrom 0 text) := by
  cases text with
  | nil => exact absurd rfl h.nonempty
  | cons digit digits =>
    obtain ⟨isDigit, rest⟩ := forall_mem_cons.mp h.digits
    have small : digit.toNat - 0x30 < 10 := by
      have := isDigit.2
      omega
    have first : decimalText (digit.toNat - 0x30) = [digit] := by
      rw [decimalText_of_lt small, ← isDigit.eq_ofNat]
    have value : decimalFrom 0 (digit :: digits) = decimalFrom (digit.toNat - 0x30) digits := by
      rw [decimalFrom, foldl_cons, Nat.zero_mul, Nat.zero_add, decimalFrom]
    rw [value]
    by_cases zero : digit.toNat - 0x30 = 0
    · -- A zero stands alone.
      have alone : digits = [] := by
        by_contra more
        have long : (digit :: digits).length > 1 := by
          rw [length_cons]
          have := length_pos_iff.mpr more
          omega
        refine h.leading long ?_
        have := isDigit.1
        rw [List.head?_cons, Option.some.injEq]
        exact UInt8.toNat_inj.mp (show digit.toNat = 0x30 by omega)
      rw [alone, decimalFrom, foldl_nil, first]
    · rw [← decimalText_append (Nat.pos_of_ne_zero zero) rest, first, singleton_append]

theorem decimalFrom_snoc (value : Nat) (digits : List UInt8) (digit : UInt8) :
    decimalFrom value (digits ++ [digit]) = decimalFrom value digits * 10 + (digit.toNat - 0x30) := by
  rw [decimalFrom, foldl_append, foldl_cons, foldl_nil, decimalFrom]

theorem toNat_digit {d : Nat} (h : d < 10) : (UInt8.ofNat (0x30 + d)).toNat = 0x30 + d := by
  rw [UInt8.toNat_ofNat']
  omega

theorem isDigit_ofNat {d : Nat} (h : d < 10) : IsDigit (UInt8.ofNat (0x30 + d)) := by
  unfold IsDigit
  rw [toNat_digit h]
  omega

/-- Induction on the digits of a number. -/
theorem decimal_induction {motive : Nat → Prop} (one : ∀ d < 10, motive d)
    (snoc : ∀ n d, 0 < n → d < 10 → motive n → motive (10 * n + d)) (n : Nat) : motive n := by
  induction n using Nat.strong_induction_on with
  | h n ih =>
    by_cases small : n < 10
    · exact one n small
    · have step := snoc (n / 10) (n % 10) (by omega) (by omega) (ih (n / 10) (by omega))
      rwa [Nat.div_add_mod] at step

theorem decimalFrom_decimalText (n : Nat) : decimalFrom 0 (decimalText n) = n := by
  induction n using decimal_induction with
  | one d small =>
    rw [decimalText_of_lt small, decimalFrom, foldl_cons, foldl_nil, toNat_digit small]
    omega
  | snoc n d positive small ih =>
    rw [← decimalText_snoc positive small, decimalFrom_snoc, ih, toNat_digit small]
    omega

theorem isDigit_of_mem_decimalText {n : Nat} : ∀ byte ∈ decimalText n, IsDigit byte := by
  induction n using decimal_induction with
  | one d small =>
    rw [decimalText_of_lt small, forall_mem_singleton]
    exact isDigit_ofNat small
  | snoc n d positive small ih =>
    rw [← decimalText_snoc positive small, forall_mem_append, forall_mem_singleton]
    exact ⟨ih, isDigit_ofNat small⟩

theorem decimalText_ne_nil (n : Nat) : decimalText n ≠ [] := by
  induction n using decimal_induction with
  | one d small =>
    rw [decimalText_of_lt small]
    exact cons_ne_nil _ _
  | snoc n d positive small ih =>
    rw [← decimalText_snoc positive small]
    exact append_ne_nil_of_left_ne_nil ih _

/-- The text of a positive number does not begin with a zero. -/
theorem head?_decimalText {n : Nat} (positive : 0 < n) : (decimalText n).head? ≠ some 0x30 := by
  induction n using decimal_induction with
  | one d small =>
    rw [decimalText_of_lt small, List.head?_cons, Ne, Option.some.injEq]
    intro zero
    have := congrArg UInt8.toNat zero
    rw [toNat_digit small] at this
    have : (0x30 : UInt8).toNat = 0x30 := rfl
    omega
  | snoc n d above small ih =>
    rw [← decimalText_snoc above small, List.head?_append_of_ne_nil _ (decimalText_ne_nil n)]
    exact ih above

theorem canonical_decimalText (n : Nat) : CanonicalDecimal (decimalText n) where
  nonempty := decimalText_ne_nil n
  digits := isDigit_of_mem_decimalText
  leading := by
    intro long
    refine head?_decimalText (Nat.pos_of_ne_zero ?_)
    rintro rfl
    exact absurd long (by decide)

/-- The canonical texts are the texts of the numbers. -/
theorem canonicalDecimal_iff {text : List UInt8} {n : Nat} :
    CanonicalDecimal text ∧ decimalFrom 0 text = n ↔ text = decimalText n := by
  constructor
  · rintro ⟨canonical, rfl⟩
    exact canonical.eq_decimalText
  · rintro rfl
    exact ⟨canonical_decimalText n, decimalFrom_decimalText n⟩

end MakopaVerified.Foundation
