import MakopaVerified.Admission.ManifestText
import MakopaVerified.Foundation.Checks

/-!
# Parts of a text

What the small functions on texts say of the text: where it is split, how it begins, and which spelling
a number or a byte string has.
-/

namespace MakopaVerified.Admission

open Foundation List

variable {text first second start rest part : List UInt8} {separator : UInt8}

theorem startsWith_iff : startsWith text start = true ↔ start <+: text := isPrefixOf_iff_prefix

theorem singleton_prefix_iff {byte : UInt8} : [byte] <+: text ↔ text.head? = some byte := by
  cases text with
  | nil => exact ⟨nofun, nofun⟩
  | cons head text =>
    rw [List.head?_cons, Option.some.injEq]
    constructor
    · rintro ⟨rest, h⟩
      exact (List.cons.inj h).1.symm
    · rintro rfl
      exact ⟨text, rfl⟩

theorem hasPart_iff : hasPart text part = true ↔ part <:+: text := by
  unfold hasPart
  rw [any_eq_true]
  constructor
  · rintro ⟨tail, mem, begins⟩
    exact (startsWith_iff.mp begins).isInfix.trans ((mem_tails _ _).mp mem).isInfix
  · rintro ⟨before, behind, rfl⟩
    refine ⟨part ++ behind, (mem_tails _ _).mpr ⟨before, by rw [append_assoc]⟩, ?_⟩
    exact startsWith_iff.mpr (prefix_append _ _)

theorem dropStart_eq_some : dropStart text start = some rest ↔ text = start ++ rest := by
  unfold dropStart
  constructor
  · intro h
    split at h
    · rename_i begins
      obtain ⟨rest', rfl⟩ := startsWith_iff.mp begins
      obtain rfl := Option.some.inj h
      rw [drop_left]
    · cases h
  · rintro rfl
    rw [if_pos (startsWith_iff.mpr (prefix_append _ _)), drop_left]

theorem splitOnce_eq_some :
    splitOnce separator text = some (first, second) ↔
      text = first ++ separator :: second ∧ separator ∉ first := by
  induction text generalizing first with
  | nil =>
    constructor
    · intro h
      cases h
    · rintro ⟨h, -⟩
      exact absurd h.symm (append_ne_nil_of_right_ne_nil _ (cons_ne_nil _ _))
  | cons byte text ih =>
    unfold splitOnce
    by_cases same : byte = separator
    · rw [if_pos same, Option.some.injEq, Prod.mk.injEq]
      subst same
      constructor
      · rintro ⟨rfl, rfl⟩
        exact ⟨rfl, not_mem_nil⟩
      · rintro ⟨h, clean⟩
        cases first with
        | nil => exact ⟨rfl, (List.cons.inj h).2⟩
        | cons head first => exact absurd ((List.cons.inj h).1 ▸ mem_cons_self) clean
    · rw [if_neg same, Option.map_eq_some_iff]
      constructor
      · rintro ⟨⟨front, behind⟩, split, pair⟩
        obtain ⟨rfl, rfl⟩ := Prod.mk.inj pair
        obtain ⟨rfl, clean⟩ := ih.mp split
        exact ⟨rfl, not_mem_cons_of_ne_of_not_mem (fun h => same h.symm) clean⟩
      · rintro ⟨h, clean⟩
        cases first with
        | nil => exact absurd (List.cons.inj h).1 same
        | cons head first =>
          obtain ⟨rfl, rfl⟩ := List.cons.inj h
          exact ⟨(first, second), ih.mpr ⟨rfl, not_mem_of_not_mem_cons clean⟩, rfl⟩

/-- Splitting into at most `count + 2` parts gives a first part and splits the rest. -/
theorem splitN_cons {count : Nat} (clean : separator ∉ first) :
    splitN separator (count + 2) (first ++ separator :: second) =
      first :: splitN separator (count + 1) second := by
  rw [splitN, splitOnce_eq_some.mpr ⟨rfl, clean⟩]

theorem length_splitN_le (count : Nat) : (splitN separator count text).length ≤ count := by
  induction count using Nat.strong_induction_on generalizing text with
  | h count ih =>
    match count with
    | 0 => exact Nat.le_refl _
    | 1 => exact Nat.le_refl _
    | count + 2 =>
      unfold splitN
      split
      · exact Nat.le_add_left 1 (count + 1)
      · rename_i behind _
        exact Nat.succ_le_succ (ih (count + 1) (Nat.lt_succ_self _))

/-- A part that is not the only one ends at a separator. -/
theorem splitN_eq_cons {count : Nat} {parts : List (List UInt8)} {next : List UInt8}
    (h : splitN separator (count + 2) text = first :: next :: parts) :
    ∃ behind, text = first ++ separator :: behind ∧ separator ∉ first ∧
      splitN separator (count + 1) behind = next :: parts := by
  unfold splitN at h
  split at h
  · cases h
  · rename_i front behind split
    obtain ⟨rfl, split'⟩ := List.cons.inj h
    obtain ⟨shape, clean⟩ := splitOnce_eq_some.mp split
    exact ⟨behind, shape, clean, split'⟩

/-- The four fields of a line. -/
theorem splitN_four {a b c d : List UInt8} :
    splitN separator 4 text = [a, b, c, d] ↔
      text = a ++ separator :: (b ++ separator :: (c ++ separator :: d)) ∧
        separator ∉ a ∧ separator ∉ b ∧ separator ∉ c := by
  constructor
  · intro h
    obtain ⟨_, rfl, cleanA, h⟩ := splitN_eq_cons h
    obtain ⟨_, rfl, cleanB, h⟩ := splitN_eq_cons h
    obtain ⟨_, rfl, cleanC, h⟩ := splitN_eq_cons h
    obtain ⟨rfl, -⟩ := List.cons.inj h
    exact ⟨rfl, cleanA, cleanB, cleanC⟩
  · rintro ⟨rfl, cleanA, cleanB, cleanC⟩
    rw [splitN_cons cleanA, splitN_cons cleanB, splitN_cons cleanC, splitN]

/-! ## The order of byte strings -/

theorem bytesLt_irrefl (a : List UInt8) : bytesLt a a = false := by
  induction a with
  | nil => rfl
  | cons x a ih => simp [bytesLt, ih]

theorem bytesLt_cons {x y : UInt8} {a b : List UInt8} :
    bytesLt (x :: a) (y :: b) = true ↔ x < y ∨ x = y ∧ bytesLt a b = true := by
  rw [bytesLt, Bool.or_eq_true, Bool.and_eq_true, decide_eq_true_iff, decide_eq_true_iff]

theorem bytesLt_trans {a b c : List UInt8} (hab : bytesLt a b = true) (hbc : bytesLt b c = true) :
    bytesLt a c = true := by
  induction a generalizing b c with
  | nil =>
    cases c with
    | nil => cases b <;> cases hbc
    | cons z c => rfl
  | cons x a ih =>
    cases b with
    | nil => cases hab
    | cons y b =>
      cases c with
      | nil => cases hbc
      | cons z c =>
        rw [bytesLt_cons] at hab hbc ⊢
        obtain hxy | ⟨rfl, hab⟩ := hab
        · obtain hyz | ⟨rfl, -⟩ := hbc
          · exact .inl (UInt8.lt_trans hxy hyz)
          · exact .inl hxy
        · obtain hyz | ⟨rfl, hbc⟩ := hbc
          · exact .inl hyz
          · exact .inr ⟨rfl, ih hab hbc⟩

/-! ## Decimal numbers -/

theorem isAsciiDigit_iff {byte : UInt8} : isAsciiDigit byte = true ↔ IsDigit byte := by
  unfold isAsciiDigit IsDigit
  rw [Bool.and_eq_true, decide_eq_true_iff, decide_eq_true_iff, UInt8.le_iff_toNat_le,
    UInt8.le_iff_toNat_le]
  exact Iff.rfl

theorem le_decimalFrom (value : Nat) (digits : List UInt8) : value ≤ decimalFrom value digits := by
  induction digits generalizing value with
  | nil => exact Nat.le_refl _
  | cons digit digits ih =>
    have next : value ≤ value * 10 + (digit.toNat - 0x30) := by omega
    exact next.trans (ih _)

/-- Reading digits gives their value, if a `u64` holds it. -/
theorem parseDigits_eq_ok {value : Nat} {digits : List UInt8} {result : UInt64}
    (small : value < 2 ^ 64) :
    parseDigits value digits = .ok result ↔ decimalFrom value digits = result.toNat := by
  induction digits generalizing value with
  | nil =>
    show Except.ok (UInt64.ofNat value) = .ok result ↔ value = result.toNat
    rw [Except.ok.injEq, ← UInt64.toNat_inj, UInt64.toNat_ofNat_of_lt' small]
  | cons digit digits ih =>
    unfold parseDigits
    rw [rejectIf_bind_eq_ok, not_not]
    constructor
    · rintro ⟨fits, h⟩
      exact (ih fits).mp h
    · intro h
      have below := le_decimalFrom (value * 10 + (digit.toNat - 0x30)) digits
      have fits : value * 10 + (digit.toNat - 0x30) < 2 ^ 64 := by
        have := result.toNat_lt
        have : decimalFrom (value * 10 + (digit.toNat - 0x30)) digits = result.toNat := h
        omega
      exact ⟨fits, (ih fits).mpr h⟩

/-- A number has one decimal text. -/
theorem parseCanonicalDecimal_eq_ok {value : UInt64} :
    parseCanonicalDecimal text = .ok value ↔ text = decimalText value.toNat := by
  unfold parseCanonicalDecimal
  rw [rejectIf_bind_eq_ok, parseDigits_eq_ok (by decide), ← canonicalDecimal_iff]
  refine and_congr_left fun _ => ?_
  rw [not_or, not_or, Bool.not_eq_false, all_eq_true, not_and, startsWith_iff]
  constructor
  · rintro ⟨nonempty, digits, leading⟩
    refine ⟨nonempty, fun byte mem => isAsciiDigit_iff.mp (digits byte mem), fun long zero => ?_⟩
    exact leading long (singleton_prefix_iff.mpr zero)
  · rintro ⟨nonempty, digits, leading⟩
    refine ⟨nonempty, fun byte mem => isAsciiDigit_iff.mpr (digits byte mem), fun long zero => ?_⟩
    exact leading long (singleton_prefix_iff.mp zero)

/-! ## Hexadecimal digits -/

/-- What holds of 256 bytes holds of each. -/
theorem forall_byte {p : UInt8 → Prop} (h : ∀ n : Fin 256, p (UInt8.ofNat n)) (byte : UInt8) :
    p byte := by
  have := h ⟨byte.toNat, byte.toNat_lt⟩
  rwa [UInt8.ofNat_toNat] at this

theorem hexNibble_hexDigit (nibble : UInt8) :
    nibble < 16 → hexNibble (hexDigit nibble) = .ok nibble := by
  revert nibble
  refine forall_byte ?_
  decide +kernel

theorem hexDigit_of_hexNibble (byte : UInt8) :
    ((hexNibble byte).toOption.all fun nibble => nibble < 16 ∧ byte = hexDigit nibble) = true := by
  revert byte
  refine forall_byte ?_
  decide +kernel

theorem hexNibble_eq_ok {byte nibble : UInt8} :
    hexNibble byte = .ok nibble ↔ nibble < 16 ∧ byte = hexDigit nibble := by
  constructor
  · intro h
    have valid := hexDigit_of_hexNibble byte
    rw [h] at valid
    exact of_decide_eq_true valid
  · rintro ⟨small, rfl⟩
    exact hexNibble_hexDigit nibble small

/-- A byte is made of its two halves. -/
theorem nibbles_of_byte (byte : UInt8) :
    byte >>> 4 < 16 ∧ byte &&& 0xf < 16 ∧ (byte >>> 4) <<< 4 ||| (byte &&& 0xf) = byte := by
  revert byte
  refine forall_byte ?_
  decide +kernel

/-- Two halves are those of the byte that they make. -/
theorem byte_of_nibbles {high low : UInt8} (hhigh : high < 16) (hlow : low < 16) :
    (high <<< 4 ||| low) >>> 4 = high ∧ (high <<< 4 ||| low) &&& 0xf = low := by
  have all : ∀ h l : Fin 16,
      (UInt8.ofNat h <<< 4 ||| UInt8.ofNat l) >>> 4 = UInt8.ofNat h ∧
        (UInt8.ofNat h <<< 4 ||| UInt8.ofNat l) &&& 0xf = UInt8.ofNat l := by decide +kernel
  have := all ⟨high.toNat, UInt8.lt_iff_toNat_lt.mp hhigh⟩ ⟨low.toNat, UInt8.lt_iff_toNat_lt.mp hlow⟩
  rwa [UInt8.ofNat_toNat, UInt8.ofNat_toNat] at this

theorem encodeHex_cons (byte : UInt8) (bytes : List UInt8) :
    encodeHex (byte :: bytes) =
      hexDigit (byte >>> 4) :: hexDigit (byte &&& 0xf) :: encodeHex bytes := rfl

theorem length_encodeHex (bytes : List UInt8) : (encodeHex bytes).length = bytes.length * 2 := by
  induction bytes with
  | nil => rfl
  | cons byte bytes ih =>
    rw [encodeHex_cons, length_cons, length_cons, ih, length_cons]
    omega

/-- Pairs of digits are read as the bytes that they encode. -/
theorem decodeHexPairs_eq_ok {count : Nat} {bytes : List UInt8} (even : text.length = count * 2) :
    decodeHexPairs text = .ok bytes ↔ text = encodeHex bytes := by
  induction count generalizing text bytes with
  | zero =>
    obtain rfl := length_eq_zero_iff.mp (even.trans (Nat.zero_mul _))
    show Except.ok [] = .ok bytes ↔ [] = encodeHex bytes
    rw [Except.ok.injEq]
    cases bytes with
    | nil => exact Iff.rfl
    | cons byte bytes => exact ⟨nofun, nofun⟩
  | succ count ih =>
    match text, even with
    | [_], even =>
      rw [length_singleton] at even
      omega
    | high :: low :: text, even =>
      rw [length_cons, length_cons] at even
      unfold decodeHexPairs
      simp only [bind_eq_ok, hexNibble_eq_ok, ih (show text.length = count * 2 by omega)]
      constructor
      · rintro ⟨upper, ⟨hupper, rfl⟩, lower, ⟨hlower, rfl⟩, bytes, rfl, ⟨⟩⟩
        obtain ⟨first, second⟩ := byte_of_nibbles hupper hlower
        rw [encodeHex_cons, first, second]
      · intro shape
        cases bytes with
        | nil => cases shape
        | cons byte bytes =>
          rw [encodeHex_cons, List.cons.injEq, List.cons.injEq] at shape
          obtain ⟨rfl, rfl, rfl⟩ := shape
          obtain ⟨upper, lower, whole⟩ := nibbles_of_byte byte
          refine ⟨_, ⟨upper, rfl⟩, _, ⟨lower, rfl⟩, _, rfl, ?_⟩
          rw [whole]
          rfl

theorem hexDigit_of_mem_encodeHex {bytes : List UInt8} {digit : UInt8} (mem : digit ∈ encodeHex bytes) :
    ∃ nibble < 16, digit = hexDigit nibble := by
  obtain ⟨byte, -, pair⟩ := mem_flatMap.mp mem
  obtain ⟨high, low, -⟩ := nibbles_of_byte byte
  obtain rfl | pair := mem_cons.mp pair
  · exact ⟨_, high, rfl⟩
  · exact ⟨_, low, mem_singleton.mp pair⟩

/-- The digits that `encode_hex` writes are those that `decode_hex_array` admits. -/
theorem hexDigit_admitted (nibble : UInt8) : nibble < 16 →
    (isAsciiDigit (hexDigit nibble) ||
      (0x61 ≤ hexDigit nibble && hexDigit nibble ≤ 0x66)) = true := by
  revert nibble
  refine forall_byte ?_
  decide +kernel

/-- Bytes have one text in hexadecimal digits. -/
theorem decodeHexArray_eq_ok {count : Nat} {bytes : List UInt8} :
    decodeHexArray count text = .ok bytes ↔ bytes.length = count ∧ text = encodeHex bytes := by
  unfold decodeHexArray
  rw [rejectIf_bind_eq_ok, not_or, not_not, Bool.not_eq_false, all_eq_true]
  constructor
  · rintro ⟨⟨length, -⟩, decoded⟩
    obtain rfl := (decodeHexPairs_eq_ok length).mp decoded
    rw [length_encodeHex] at length
    exact ⟨by omega, rfl⟩
  · rintro ⟨rfl, rfl⟩
    refine ⟨⟨length_encodeHex bytes, fun digit mem => ?_⟩,
      (decodeHexPairs_eq_ok (length_encodeHex bytes)).mpr rfl⟩
    obtain ⟨nibble, small, rfl⟩ := hexDigit_of_mem_encodeHex mem
    exact hexDigit_admitted nibble small

/-! ## Paths -/

/-- A slash at the beginning, at the end or before another one leaves an empty component. -/
theorem empty_mem_splitOn {path before behind : List UInt8} (shape : path = before ++ 0x2f :: behind)
    (h : before = [] ∨ behind = [] ∨ behind.head? = some 0x2f) : [] ∈ path.splitOn 0x2f := by
  rw [shape, splitOn_append_cons_self, mem_append]
  obtain rfl | rfl | next := h
  · exact .inl mem_cons_self
  · exact .inr mem_cons_self
  · obtain ⟨rest, rfl⟩ := List.head?_eq_some_iff.mp next
    have split := splitOn_append_cons_self (a := (0x2f : UInt8)) [] rest
    rw [nil_append] at split
    rw [split]
    exact .inr (mem_append_left _ mem_cons_self)

/-- The rules of `validate_path`. Those on slashes follow from the one on components. -/
theorem validatePath_eq_ok {path : List UInt8} : validatePath path = .ok () ↔ ValidPath path := by
  unfold validatePath
  simp only [rejectIf_eq_ok, not_or, any_eq_true, Bool.or_eq_true, decide_eq_true_eq, not_exists,
    not_and, Bool.not_eq_true', Bool.not_eq_false]
  constructor
  · rintro ⟨nonempty, length, -, -, -, -, parts, bytes⟩
    refine ⟨length_pos_iff.mpr nonempty, Nat.le_of_not_gt length, bytes, fun part mem => ?_⟩
    obtain ⟨⟨first, second⟩, third⟩ := parts part mem
    exact ⟨first, second, third⟩
  · intro valid
    have noEmpty : [] ∉ path.splitOn 0x2f := fun mem => (valid.parts [] mem).1 rfl
    refine ⟨length_pos_iff.mp valid.length_pos, Nat.not_lt.mpr valid.length_le, ?_, ?_, ?_, ?_,
      fun part mem => ?_, valid.bytes⟩
    · intro leading
      obtain ⟨behind, shape⟩ := startsWith_iff.mp leading
      have split : path = [] ++ 0x2f :: behind := shape.symm
      exact noEmpty (empty_mem_splitOn split (.inl rfl))
    · intro trailing
      obtain ⟨before, shape⟩ := List.getLast?_eq_some_iff.mp trailing
      exact noEmpty (empty_mem_splitOn shape (.inr (.inl rfl)))
    · intro repeated
      obtain ⟨before, behind, shape⟩ := hasPart_iff.mp repeated
      rw [append_assoc] at shape
      exact noEmpty (empty_mem_splitOn shape.symm (.inr (.inr rfl)))
    · intro backslash
      exact absurd (valid.bytes _ (contains_iff_mem.mp backslash)) (by decide)
    · obtain ⟨first, second, third⟩ := valid.parts part mem
      exact ⟨⟨first, second⟩, third⟩

end MakopaVerified.Admission
