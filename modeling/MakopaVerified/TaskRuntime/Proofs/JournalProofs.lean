import MakopaVerified.TaskRuntime.Journal

/-!
# The journal keeps its format

What `EffectJournalV1::validate` accepts, and what the appending operations do to an accepted
journal: they extend the list of committed records by one and leave the rest alone.
-/

namespace MakopaVerified.TaskRuntime

open Foundation Method

namespace EffectJournal

/-! ## What `validate` accepts -/

/-- The record at `index` of a journal that has committed `count` records. -/
def RecordOk (count index : Nat) (r : EffectRecord) : Prop :=
  if index < count then r.wellFormed ∧ r.recordSequence = UInt64.ofNat index + 1
  else r = EffectRecord.zero

theorem checkRecords_eq_ok {count : Nat} {l : List EffectRecord} {start : Nat} :
    checkRecords count start l = .ok () ↔
      ∀ i (h : i < l.length), RecordOk count (start + i) l[i] := by
  induction l generalizing start with
  | nil => simp [checkRecords]
  | cons r rest ih =>
    have hsplit : (∀ i (h : i < (r :: rest).length), RecordOk count (start + i) (r :: rest)[i]) ↔
        RecordOk count start r ∧
          ∀ i (h : i < rest.length), RecordOk count (start + 1 + i) rest[i] := by
      constructor
      · intro hall
        refine ⟨hall 0 (Nat.succ_pos _), ?_⟩
        intro i hi
        have := hall (i + 1) (Nat.succ_lt_succ hi)
        rw [Nat.add_assoc, Nat.add_comm 1 i]
        exact this
      · rintro ⟨hhead, htail⟩ i hi
        cases i with
        | zero => exact hhead
        | succ i =>
          have := htail i (Nat.lt_of_succ_lt_succ hi)
          rw [Nat.add_assoc, Nat.add_comm 1 i] at this
          exact this
    rw [hsplit, ← ih]
    rw [checkRecords]
    unfold RecordOk
    by_cases hlt : start < count
    · rw [if_pos hlt, if_pos hlt, check_ite_eq_ok]
      simp only [not_or, not_not, ne_eq]
    · rw [if_neg hlt, if_neg hlt, check_ite_eq_ok]
      simp only [not_not, ne_eq]

/-- A journal in use that passes `validate`. -/
structure JournalOk (j : EffectJournal) : Prop where
  state : j.state = .live ∨ j.state = .sealed
  padding : j.reservedZero = Vector.replicate 5 0
  generation : j.objectGeneration = effectJournalObjectGeneration
  capacity : j.committedRecordCount + j.reservedRecordCount ≤ effectJournalRecordCount
  reserved_le : j.reservedRecordCount ≤ 2
  sealed_reserved : j.state = .sealed → j.reservedRecordCount = 0
  records : ∀ i (h : i < effectJournalRecordCount),
    RecordOk j.committedRecordCount i j.records[i]
  next : j.nextRecordSequence = UInt64.ofNat j.committedRecordCount + 1

theorem validate_eq_ok {j : EffectJournal} : j.validate = .ok () ↔ j = dead ∨ JournalOk j := by
  unfold validate
  by_cases hd : j.state = .dead
  · rw [if_pos hd]
    constructor
    · intro h
      split at h
      · rename_i hj
        exact .inl hj
      · cases h
    · rintro (rfl | h)
      · rfl
      · rcases h.state with hs | hs <;> rw [hs] at hd <;> cases hd
  · have hne : j ≠ dead := fun h => hd (by rw [h]; rfl)
    rw [if_neg hd, check_ite_eq_ok, unit_bind_eq_ok, check_ite_eq_ok, checkRecords_eq_ok]
    simp only [not_or, not_and, not_not, ne_eq, Nat.not_lt, gt_iff_lt, and_true, hne, false_or]
    constructor
    · rintro ⟨⟨hb, hpad, hgen, -, hcap, hres, hseal⟩, hrec, hnext⟩
      refine ⟨?_, hpad, hgen, hcap, hres, hseal, ?_, hnext⟩
      · cases hs : j.state with
        | building => exact absurd hs hb
        | live => exact .inl rfl
        | sealed => exact .inr rfl
        | dead => exact absurd hs hd
      · intro i hi
        have := hrec i (by rw [Vector.length_toList]; exact hi)
        rw [Nat.zero_add, Vector.getElem_toList] at this
        exact this
    · intro h
      refine ⟨⟨?_, h.padding, h.generation, ?_, h.capacity, h.reserved_le, h.sealed_reserved⟩, ?_,
        h.next⟩
      · intro hb
        rcases h.state with hs | hs <;> rw [hs] at hb <;> cases hb
      · exact Nat.le_trans (Nat.le_add_right _ _) h.capacity
      · intro i hi
        rw [Nat.zero_add, Vector.getElem_toList]
        exact h.records i (by rw [Vector.length_toList] at hi; exact hi)

/-! ## Appending -/

/-- The journal with one more record and the given reservation. -/
def appended (record : EffectRecord) (reserved : Nat) (j : EffectJournal) : EffectJournal :=
  { j with
    records := j.records.setIfInBounds j.committedRecordCount
      { record with recordSequence := j.nextRecordSequence }
    committedRecordCount := j.committedRecordCount + 1
    reservedRecordCount := reserved
    nextRecordSequence := j.nextRecordSequence + 1 }

/-- A record that is ready to be appended. -/
def Fresh (record : EffectRecord) : Prop := record.wellFormed ∧ record.recordSequence = 0

theorem event_fresh (kind : EffectEventKind) (status : TrapStatus) (epoch actor gen : UInt64)
    (request : ApprovalRequest) (objectType : UInt32) (rights : UInt64) :
    Fresh (EffectRecord.event kind status epoch actor gen request objectType rights) :=
  ⟨⟨rfl, rfl, rfl, rfl⟩, rfl⟩

section Append

variable {j : EffectJournal} {record : EffectRecord}

/-- The sequence of the next record is one more than the number of records. -/
theorem JournalOk.next_toNat (h : JournalOk j) :
    j.nextRecordSequence.toNat = j.committedRecordCount + 1 := by
  have hcap := h.capacity
  have hcount : (UInt64.ofNat j.committedRecordCount).toNat = j.committedRecordCount := by
    rw [UInt64.toNat_ofNat', Nat.mod_eq_of_lt]
    unfold effectJournalRecordCount at hcap
    omega
  have h1 : (1 : UInt64).toNat = 1 := rfl
  rw [h.next, toNat_add_of_lt, hcount, h1]
  rw [hcount, h1]
  unfold effectJournalRecordCount at hcap
  omega

theorem JournalOk.next_ne (h : JournalOk j) :
    j.nextRecordSequence ≠ 0 ∧ j.nextRecordSequence ≠ u64Max := by
  have hnext := h.next_toNat
  have hcap := h.capacity
  unfold effectJournalRecordCount at hcap
  refine ⟨?_, ?_⟩
  · intro hz
    rw [hz] at hnext
    exact absurd hnext (Nat.succ_ne_zero _).symm
  · intro hmax
    have hm : u64Max.toNat = 2 ^ 64 - 1 := rfl
    rw [hmax, hm] at hnext
    omega

theorem run_appendUnreserved (hroom : j.committedRecordCount < effectJournalRecordCount)
    (hnext : j.nextRecordSequence ≠ 0 ∧ j.nextRecordSequence ≠ u64Max) (hr : Fresh record) :
    (appendUnreserved record).run j = (.ok (), appended record j.reservedRecordCount j) := by
  unfold appendUnreserved
  rw [run_self_bind]
  rw [if_neg (by rw [not_or, ge_iff_le, Nat.not_le]; exact ⟨hroom, hnext.1⟩),
    if_neg (by rw [not_or, not_not, not_not]; exact hr)]
  simp only [run_update, checkedAdd_one hnext.2, Option.getD_some]
  rfl

/-- `begin_lifecycle` takes three of the remaining records, or refuses. -/
theorem run_beginLifecycle (h : JournalOk j) (hlive : j.state = .live) (hr : Fresh record) :
    (beginLifecycle record).run j =
      if j.committedRecordCount + j.reservedRecordCount + 3 ≤ effectJournalRecordCount then
        (.ok (), appended record 2 j)
      else (.error .full, j) := by
  have hnext := h.next_ne
  have hcap := h.capacity
  have hsum : checkedAdd j.nextRecordSequence 2 ≠ none := by
    rw [ne_eq, checkedAdd_eq_none, h.next_toNat]
    have h2 : (2 : UInt64).toNat = 2 := rfl
    unfold effectJournalRecordCount at hcap
    omega
  unfold beginLifecycle
  simp only [run_self_bind, hlive, ne_eq, not_true_eq_false, if_false, hnext.1, hsum, or_false]
  by_cases hroom : j.committedRecordCount + j.reservedRecordCount + 3 ≤ effectJournalRecordCount
  · rw [if_neg (by omega), if_pos hroom,
      run_bind_ok (run_appendUnreserved (by omega) hnext hr)]
    rfl
  · rw [if_pos (by omega), if_neg hroom]
    rfl

/-- `append_reserved` uses one reserved record, and gives the rest back if it is told so. -/
theorem run_appendReserved (h : JournalOk j) (hlive : j.state = .live)
    (hres : j.reservedRecordCount ≠ 0) (hr : Fresh record) (release : Bool) :
    (appendReserved record release).run j =
      (.ok (), appended record (if release then 0 else j.reservedRecordCount - 1) j) := by
  have hcap := h.capacity
  have happend : (appendUnreserved record).run
      { j with reservedRecordCount := j.reservedRecordCount - 1 } = _ :=
    run_appendUnreserved (show j.committedRecordCount < effectJournalRecordCount by omega)
      h.next_ne hr
  unfold appendReserved
  simp only [run_self_bind, hlive, hres, ne_eq, not_true_eq_false, or_self, if_false]
  rw [run_update_bind]
  rw [run_bind_ok happend, run_update]
  cases release with
  | false => rfl
  | true => rfl

theorem run_sealLive (hlive : j.state = .live) (hres : j.reservedRecordCount = 0) :
    sealLive.run j = (.ok (), { j with state := .sealed }) := by
  unfold sealLive
  rw [run_self_bind]
  rw [if_neg (by rw [not_or, not_not, not_not]; exact ⟨hlive, hres⟩)]
  rfl

/-- The appended journal is accepted if the reservation still fits. -/
theorem JournalOk.appended (h : JournalOk j) (hlive : j.state = .live) (hr : Fresh record)
    {reserved : Nat}
    (hroom : j.committedRecordCount + 1 + reserved ≤ effectJournalRecordCount)
    (hle : reserved ≤ 2) : JournalOk (appended record reserved j) where
  state := h.state
  padding := h.padding
  generation := h.generation
  capacity := hroom
  reserved_le := hle
  sealed_reserved hs := nomatch hlive.symm.trans hs
  records i hi := by
    show RecordOk (j.committedRecordCount + 1) i
      (j.records.setIfInBounds j.committedRecordCount
        { record with recordSequence := j.nextRecordSequence })[i]
    have hold := h.records i hi
    unfold RecordOk at hold ⊢
    rw [Vector.getElem_setIfInBounds]
    by_cases heq : j.committedRecordCount = i
    · rw [if_pos heq, if_pos (by omega), ← heq]
      exact ⟨hr.1, h.next⟩
    · rw [if_neg heq]
      by_cases hlt : i < j.committedRecordCount
      · rw [if_pos hlt] at hold
        rw [if_pos (by omega)]
        exact hold
      · rw [if_neg hlt] at hold
        rw [if_neg (by omega)]
        exact hold
  next := by
    show j.nextRecordSequence + 1 = UInt64.ofNat (j.committedRecordCount + 1) + 1
    rw [h.next, UInt64.ofNat_add]
    rfl

theorem JournalOk.sealed (h : JournalOk j) (hres : j.reservedRecordCount = 0) :
    JournalOk { j with state := .sealed } :=
  { h with
    state := .inr rfl
    sealed_reserved := fun _ => hres }

theorem length_committed (h : j.committedRecordCount ≤ effectJournalRecordCount) :
    j.committed.length = j.committedRecordCount := by
  unfold committed
  rw [List.length_take, Vector.length_toList, Nat.min_eq_left h]

/-- Appending adds one record at the end of the committed ones. -/
theorem committed_appended (hroom : j.committedRecordCount < effectJournalRecordCount)
    (reserved : Nat) :
    (appended record reserved j).committed =
      j.committed ++ [{ record with recordSequence := j.nextRecordSequence }] := by
  show (j.records.setIfInBounds j.committedRecordCount _).toList.take (j.committedRecordCount + 1)
    = j.records.toList.take j.committedRecordCount ++ _
  have hlen : j.committedRecordCount < (j.records.toList.set j.committedRecordCount
      { record with recordSequence := j.nextRecordSequence }).length := by
    rw [List.length_set, Vector.length_toList]
    exact hroom
  rw [Vector.toList_setIfInBounds, List.take_succ_eq_append_getElem hlen, List.getElem_set_self,
    List.take_set_of_le (Nat.le_refl _)]

end Append

end EffectJournal

end MakopaVerified.TaskRuntime
