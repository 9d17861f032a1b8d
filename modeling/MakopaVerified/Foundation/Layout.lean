import MakopaVerified.Foundation.Bytes

/-!
# Records at fixed offsets

A record is given by its fields: for each one the offset at which it begins, and its bytes. Where every
field begins at the end of the one before, a byte string is the record just when it is as long and each
field stands in it at its offset.
-/

namespace MakopaVerified.Foundation

open List

/-- A field of a record. -/
structure Field where
  offset : Nat
  bytes : List UInt8
  deriving DecidableEq, Repr

/-- The field stands in the byte string at its offset. -/
def Field.StandsIn (record : List UInt8) (field : Field) : Prop :=
  (record.drop field.offset).take field.bytes.length = field.bytes

/-- Every field begins where the one before it ends, and the first one at `start`. -/
def Gapless : Nat → List Field → Prop
  | _, [] => True
  | start, field :: fields => field.offset = start ∧ Gapless (start + field.bytes.length) fields

/-- The bytes of the fields, one after the other. -/
def joinFields (fields : List Field) : List UInt8 := fields.flatMap Field.bytes

variable {record : List UInt8} {fields : List Field}

theorem joinFields_cons (field : Field) (fields : List Field) :
    joinFields (field :: fields) = field.bytes ++ joinFields fields := flatMap_cons

/-- A list is an append just when it begins with the first part and goes on with the second. -/
theorem eq_append_iff_take_drop {α : Type} {whole first second : List α} :
    whole = first ++ second ↔
      whole.take first.length = first ∧ whole.drop first.length = second := by
  constructor
  · rintro rfl
    exact ⟨take_left, drop_left⟩
  · rintro ⟨hfirst, hsecond⟩
    calc whole = whole.take first.length ++ whole.drop first.length :=
          (take_append_drop _ _).symm
      _ = first ++ second := by rw [hfirst, hsecond]

/-- What follows `start` is made of the fields just when it has their length and they stand in it. -/
theorem drop_eq_joinFields_iff {start : Nat} (gapless : Gapless start fields)
    (inside : start ≤ record.length) :
    record.drop start = joinFields fields ↔
      record.length = start + (joinFields fields).length ∧ ∀ field ∈ fields, field.StandsIn record := by
  induction fields generalizing start with
  | nil =>
    rw [joinFields, flatMap_nil, drop_eq_nil_iff, length_nil]
    constructor
    · intro short
      exact ⟨by omega, nofun⟩
    · rintro ⟨whole, -⟩
      omega
  | cons field fields ih =>
    obtain ⟨rfl, gapless⟩ := gapless
    rw [joinFields_cons, eq_append_iff_take_drop, drop_drop, length_append,
      forall_mem_cons]
    constructor
    · rintro ⟨stands, rest⟩
      have taken := congrArg List.length stands
      rw [length_take, length_drop] at taken
      obtain ⟨whole, others⟩ := (ih gapless (by omega)).mp rest
      exact ⟨by omega, stands, others⟩
    · rintro ⟨whole, stands, others⟩
      exact ⟨stands, (ih gapless (by omega)).mpr ⟨by omega, others⟩⟩

/-- A byte string is the record just when it has its length and the fields stand in it. -/
theorem eq_joinFields_iff (gapless : Gapless 0 fields) :
    record = joinFields fields ↔
      record.length = (joinFields fields).length ∧ ∀ field ∈ fields, field.StandsIn record := by
  have h := drop_eq_joinFields_iff gapless (Nat.zero_le record.length)
  rwa [drop_zero, Nat.zero_add] at h

/-- A range that can be read is a field there, and one of the range's width. -/
theorem getRange_eq_some_iff {part : List UInt8} {offset width : Nat} (positive : 0 < width) :
    getRange record offset (offset + width) = some part ↔
      part.length = width ∧ Field.StandsIn record ⟨offset, part⟩ := by
  unfold getRange Field.StandsIn
  dsimp only
  rw [Nat.add_sub_cancel_left]
  constructor
  · intro h
    split at h
    · rename_i inside
      obtain rfl := Option.some.inj h
      have length : ((record.drop offset).take width).length = width := by
        rw [length_take, length_drop]
        omega
      exact ⟨length, by rw [length]⟩
    · cases h
  · rintro ⟨rfl, stands⟩
    have taken := congrArg List.length stands
    rw [length_take, length_drop] at taken
    rw [if_pos (by omega)]
    exact congrArg some stands

end MakopaVerified.Foundation
