import MakopaVerified.TaskRuntime.Effects

/-!
# Capability tables keep their invariant

What `CapabilityTable::validate` accepts, what each table operation does to a table when it
succeeds, and that a failed one leaves the table alone.
-/

namespace MakopaVerified.TaskRuntime

open Foundation Method

namespace CapabilityTable

/-! ## What `validate` accepts -/

/-- An entry that `validate` accepts in the table of the given task. -/
structure EntryOk (taskId taskGeneration : UInt64) (entry : CapabilityEntry) : Prop where
  task : entry.taskId = taskId
  generation : entry.taskGeneration = taskGeneration
  object_type : entry.objectType ≠ 0
  rights : validRights entry.objectType entry.rights = true
  object_id : entry.object.id ≠ 0
  object_generation : entry.object.generation ≠ 0

/-- A slot that `validate` accepts in the table of the given task. -/
structure SlotWf (taskId taskGeneration : UInt64) (slot : CapabilitySlot) : Prop where
  generation_ne : slot.generation ≠ 0
  generation_le : slot.generation ≤ capabilityGenerationMax
  retired_empty : slot.retired = true → slot.entry = none
  entry_ok : ∀ entry, slot.entry = some entry → EntryOk taskId taskGeneration entry

theorem slotValid_iff {t : CapabilityTable} {slot : CapabilitySlot} :
    t.slotValid slot = true ↔ SlotWf t.taskId t.taskGeneration slot := by
  unfold slotValid
  rcases slot with ⟨gen, retired, entry⟩
  rcases entry with _ | entry
  · simp only [Option.all_none, decide_eq_true_eq]
    constructor
    · rintro ⟨h1, h2, -, -⟩
      exact ⟨h1, h2, fun _ => rfl, by simp⟩
    · intro h
      exact ⟨h.generation_ne, h.generation_le, by simp, trivial⟩
  · simp only [Option.isSome_some, and_true, Option.all_some, decide_eq_true_eq]
    constructor
    · rintro ⟨h1, h2, h3, h4⟩
      obtain ⟨e1, e2, e3, e4, e5, e6⟩ := h4
      refine ⟨h1, h2, fun hr => absurd hr h3, ?_⟩
      intro e he
      obtain rfl : entry = e := by simpa using he
      exact ⟨e1, e2, e3, e4, e5, e6⟩
    · intro h
      obtain ⟨e1, e2, e3, e4, e5, e6⟩ := h.entry_ok entry rfl
      refine ⟨h.generation_ne, h.generation_le, ?_, e1, e2, e3, e4, e5, e6⟩
      intro hr
      simpa using h.retired_empty hr

/-- A table in use (not dead) that passes `validate`. -/
structure TableOk (t : CapabilityTable) : Prop where
  task_ne : t.taskId ≠ 0
  generation_ne : t.taskGeneration ≠ 0
  closing_empty : t.state = .closing → ∀ slot ∈ t.slots, slot.entry = none
  slots_wf : ∀ slot ∈ t.slots, SlotWf t.taskId t.taskGeneration slot

theorem validate_eq_ok_of_not_dead {t : CapabilityTable} (h : t.state ≠ .dead) :
    t.validate = .ok () ↔ TableOk t := by
  unfold validate
  rw [if_neg h, check_ite_eq_ok, check_ite_eq_ok]
  have hall : (if t.slots.all t.slotValid = true then Except.ok ()
      else .error RuntimeError.capabilityInvariant) = .ok () ↔
      ∀ slot ∈ t.slots, SlotWf t.taskId t.taskGeneration slot := by
    rw [← show (∀ slot ∈ t.slots, t.slotValid slot = true) ↔ _ from
      forall₂_congr fun _ _ => slotValid_iff, ← Vector.all_eq_true_iff_forall_mem]
    split <;> simp_all
  rw [hall]
  constructor
  · rintro ⟨h1, h2, h3⟩
    rw [not_or] at h1
    refine ⟨h1.1, h1.2, ?_, h3⟩
    intro hc slot hslot
    rw [not_and, Vector.any_eq_true'] at h2
    by_contra hne
    exact h2 hc ⟨slot, hslot, Option.isSome_iff_ne_none.mpr hne⟩
  · intro hok
    refine ⟨by rw [not_or]; exact ⟨hok.task_ne, hok.generation_ne⟩, ?_, hok.slots_wf⟩
    rintro ⟨hc, hany⟩
    rw [Vector.any_eq_true'] at hany
    obtain ⟨slot, hslot, hsome⟩ := hany
    rw [hok.closing_empty hc slot hslot] at hsome
    simp at hsome

theorem validate_dead : dead.validate = .ok () := by decide

theorem eq_dead_of_validate {t : CapabilityTable} (hd : t.state = .dead) (hv : t.validate = .ok ()) :
    t = dead := by
  unfold validate at hv
  rw [if_pos hd, check_ite_eq_ok] at hv
  simp only [not_or, not_not, ne_eq] at hv
  obtain ⟨⟨htask, hgen, hslots⟩, -⟩ := hv
  cases t
  simp_all [dead]

/-! ## Writing one slot -/

/-- Every slot of the updated vector is the new one or an old one. -/
theorem mem_set {slots : Vector CapabilitySlot capabilitySlotCount} {i : Fin capabilitySlotCount}
    {new slot : CapabilitySlot} (h : slot ∈ slots.set i new i.isLt) :
    slot = new ∨ slot ∈ slots := by
  rcases Vector.mem_or_eq_of_mem_set h with h | h
  · exact .inr h
  · exact .inl h

/-- Replacing a slot by a well-formed one keeps a live or building table valid. -/
theorem TableOk.set_slot {t : CapabilityTable} (h : TableOk t) (hs : t.state ≠ .closing)
    (i : Fin capabilitySlotCount) {new : CapabilitySlot}
    (hnew : SlotWf t.taskId t.taskGeneration new) :
    TableOk { t with slots := t.slots.set i new i.isLt } := by
  refine ⟨h.task_ne, h.generation_ne, fun hc => absurd hc hs, ?_⟩
  intro slot hslot
  rcases mem_set hslot with rfl | hold
  · exact hnew
  · exact h.slots_wf slot hold

/-- A slot without its entry is well formed, in its next generation or retired. -/
theorem SlotWf.removeEntry {task gen : UInt64} {slot : CapabilitySlot} (h : SlotWf task gen slot) :
    SlotWf task gen slot.removeEntry := by
  unfold CapabilitySlot.removeEntry
  split
  · exact ⟨h.generation_ne, h.generation_le, fun _ => rfl, by simp⟩
  · rename_i hne
    have hlt : slot.generation.toNat < capabilityGenerationMax.toNat := by
      have := UInt64.le_iff_toNat_le.mp h.generation_le
      have hne' : slot.generation.toNat ≠ capabilityGenerationMax.toNat :=
        fun e => hne (UInt64.toNat_inj.mp e)
      omega
    have hmax : capabilityGenerationMax.toNat = 0x0fffffffffffffff := rfl
    have hsucc : (slot.generation + 1).toNat = slot.generation.toNat + 1 := by
      apply toNat_add_of_lt
      show slot.generation.toNat + 1 < 2 ^ 64
      omega
    refine ⟨?_, ?_, fun _ => rfl, by simp⟩
    · intro hz
      have := congrArg UInt64.toNat hz
      rw [hsucc] at this
      simp at this
    · rw [UInt64.le_iff_toNat_le, hsucc]
      omega

/-! ## The entries of a table -/

/-- Every entry of the table satisfies `P`. -/
def Entries (P : CapabilityEntry → Prop) (t : CapabilityTable) : Prop :=
  ∀ slot ∈ t.slots, ∀ entry, slot.entry = some entry → P entry

section Entries

variable {P : CapabilityEntry → Prop} {t : CapabilityTable}

theorem Entries.get (h : Entries P t) {i : Fin capabilitySlotCount} {entry : CapabilityEntry}
    (he : (t.slotAt i).entry = some entry) : P entry :=
  h _ (Vector.getElem_mem i.isLt) entry he

theorem Entries.setEntry (h : Entries P t) (i : Fin capabilitySlotCount) {entry : CapabilityEntry}
    (he : P entry) : Entries P (setEntry i entry t) := by
  intro slot hslot e hse
  rcases mem_set hslot with rfl | hold
  · obtain rfl : entry = e := by simpa using hse
    exact he
  · exact h slot hold e hse

theorem removeEntry_entry (slot : CapabilitySlot) : slot.removeEntry.entry = none := by
  unfold CapabilitySlot.removeEntry
  split <;> rfl

theorem Entries.removeEntry (h : Entries P t) (i : Fin capabilitySlotCount) :
    Entries P { t with slots := t.slots.set i (t.slotAt i).removeEntry i.isLt } := by
  intro slot hslot e hse
  rcases mem_set hslot with rfl | hold
  · rw [removeEntry_entry] at hse
    cases hse
  · exact h slot hold e hse

theorem Entries.of_empty (h : ∀ slot ∈ t.slots, slot.entry = none) : Entries P t := by
  intro slot hslot e hse
  rw [h slot hslot] at hse
  cases hse

theorem Entries.building (taskId gen : UInt64) : Entries P (building taskId gen) := by
  apply Entries.of_empty
  intro slot hslot
  rw [(Vector.mem_replicate.mp hslot).2]
  rfl

end Entries

/-! ## Lists of entries -/

/-- Overwriting an element with one that `f` drops leaves a sublist. -/
theorem filterMap_set_sublist {α β : Type} {f : α → Option β} {l : List α} {i : Nat} {x : α}
    (hx : f x = none) : ((l.set i x).filterMap f).Sublist (l.filterMap f) := by
  induction l generalizing i with
  | nil => simp
  | cons a l ih =>
    cases i with
    | zero =>
      rw [List.set_cons_zero, List.filterMap_cons_none hx]
      cases ha : f a with
      | none => rw [List.filterMap_cons_none ha]
      | some b =>
        rw [List.filterMap_cons_some ha]
        exact List.sublist_cons_self _ _
    | succ i =>
      rw [List.set_cons_succ]
      cases ha : f a with
      | none =>
        rw [List.filterMap_cons_none ha, List.filterMap_cons_none ha]
        exact ih
      | some b =>
        rw [List.filterMap_cons_some ha, List.filterMap_cons_some ha]
        exact ih.cons_cons b

/-- Overwriting an element that `f` drops with one that it keeps adds that one. -/
theorem filterMap_set_perm {α β : Type} {f : α → Option β} {l : List α} {i : Nat} {x : α} {b : β}
    (hi : i < l.length) (hold : f l[i] = none) (hx : f x = some b) :
    ((l.set i x).filterMap f).Perm (b :: l.filterMap f) := by
  induction l generalizing i with
  | nil => exact absurd hi (Nat.not_lt_zero i)
  | cons a l ih =>
    cases i with
    | zero =>
      rw [List.set_cons_zero, List.filterMap_cons_some hx, List.filterMap_cons_none (show f a = none from hold)]
    | succ i =>
      rw [List.set_cons_succ]
      have ih := ih (Nat.lt_of_succ_lt_succ hi) hold
      cases ha : f a with
      | none =>
        rw [List.filterMap_cons_none ha, List.filterMap_cons_none ha]
        exact ih
      | some c =>
        rw [List.filterMap_cons_some ha, List.filterMap_cons_some ha]
        exact (ih.cons c).trans (.swap b c _)

/-! ## The operations -/

/-- `resolve_typed` returns an entry of the right owner, type and rights. -/
theorem resolveTyped_eq_ok {t : CapabilityTable} {task gen raw right : UInt64}
    {objectType : UInt32} {entry : CapabilityEntry} :
    t.resolveTyped task gen raw objectType right = .ok entry ↔
      t.state = .live ∧ t.taskId = task ∧ t.taskGeneration = gen ∧
      ∃ i, CapabilityHandle.decode raw = some (i, (t.slotAt i).generation) ∧
        (t.slotAt i).retired = false ∧ (t.slotAt i).entry = some entry ∧ entry.taskId = task ∧
        entry.taskGeneration = gen ∧ entry.objectType = objectType ∧ entry.rights &&& right ≠ 0 := by
  unfold resolveTyped
  split
  · rename_i hbad
    simp only [reduceCtorEq, false_iff]
    rintro ⟨h1, h2, h3, -⟩
    simp [h1, h2, h3] at hbad
  · rename_i hgood
    simp only [not_or, not_not, ne_eq] at hgood
    obtain ⟨h1, h2, h3⟩ := hgood
    rcases hd : CapabilityHandle.decode raw with _ | ⟨i, g⟩
    · simp
    · simp only [h1, h2, h3, true_and, Option.some.injEq, Prod.mk.injEq]
      constructor
      · intro h
        split at h
        · cases h
        · rename_i hslot
          simp only [not_or, not_not, ne_eq, Bool.not_eq_true] at hslot
          split at h
          · cases h
          · rename_i e he
            split at h
            · cases h
            · rename_i howner
              split at h
              · cases h
              · rename_i htype
                split at h
                · cases h
                · rename_i hrights
                  obtain rfl : e = entry := by simpa using h
                  simp only [not_or, not_not, ne_eq] at howner htype
                  exact ⟨i, ⟨rfl, hslot.2.symm⟩, hslot.1, he, howner.1, howner.2, htype, hrights⟩
      · rintro ⟨j, ⟨rfl, rfl⟩, hret, he, e1, e2, e3, e4⟩
        simp only [hret, he, e1, e2, e3, e4, ne_eq, not_true_eq_false, Bool.false_eq_true, or_self,
          if_false]

/-- The statuses that an operation on a handle can be rejected with. -/
def handleStatuses : List TrapStatus :=
  [.invalidHandle, .wrongObject, .rightsDenied, .invalidRights, .handleTableFull,
    .generationExhausted]

theorem resolveTyped_error {t : CapabilityTable} {task gen raw right : UInt64}
    {objectType : UInt32} {status : TrapStatus}
    (h : t.resolveTyped task gen raw objectType right = .error status) :
    status ∈ handleStatuses := by
  have hmem : ∀ {s : TrapStatus}, Except.error (α := CapabilityEntry) s = .error status →
      s ∈ handleStatuses → status ∈ handleStatuses := by
    intro s he hs
    obtain rfl : s = status := by simpa using he
    exact hs
  unfold resolveTyped at h
  split at h
  · exact hmem h (by decide)
  · split at h
    · exact hmem h (by decide)
    · split at h
      · exact hmem h (by decide)
      · split at h
        · exact hmem h (by decide)
        · split at h
          · exact hmem h (by decide)
          · split at h
            · exact hmem h (by decide)
            · split at h
              · exact hmem h (by decide)
              · cases h

theorem isFree_of_find {t : CapabilityTable} {i : Fin capabilitySlotCount}
    (h : t.slots.findFinIdx? (·.isFree) = some i) : (t.slotAt i).isFree = true := by
  have hfind : t.slots.find? (·.isFree) = some t.slots[i] := by
    rw [Vector.find?_eq_map_findFinIdx?_getElem, h]
    rfl
  exact Vector.find?_some hfind

/-- `allocate` either refuses and leaves the table alone, or fills one free slot. -/
theorem run_allocate (entry : CapabilityEntry) (t : CapabilityTable) :
    (∃ status ∈ handleStatuses, (allocate entry).run t = (.error status, t)) ∨
      ∃ (i : Fin capabilitySlotCount) (handle : UInt64), (t.slotAt i).isFree = true ∧
        CapabilityHandle.fromParts i (t.slotAt i).generation = some ⟨handle⟩ ∧
        (allocate entry).run t = (.ok handle, setEntry i entry t) := by
  unfold allocate
  rw [run_self_bind]
  cases hfind : t.slots.findFinIdx? (·.isFree) with
  | none =>
    left
    dsimp only
    rw [run_ite]
    split
    · exact ⟨.handleTableFull, by decide, rfl⟩
    · exact ⟨.generationExhausted, by decide, rfl⟩
  | some i =>
    dsimp only
    cases hparts : CapabilityHandle.fromParts i t.slots[i].generation with
    | none => exact .inl ⟨.generationExhausted, by decide, rfl⟩
    | some handle => exact .inr ⟨i, handle.raw, isFree_of_find hfind, hparts, rfl⟩

/-- A free slot that takes a well-formed entry is well formed. -/
theorem SlotWf.fill {task gen : UInt64} {slot : CapabilitySlot} (h : SlotWf task gen slot)
    (hfree : slot.isFree = true) {entry : CapabilityEntry} (he : EntryOk task gen entry) :
    SlotWf task gen { slot with entry := some entry } := by
  refine ⟨h.generation_ne, h.generation_le, ?_, ?_⟩
  · intro hr
    have hr' : slot.retired = true := hr
    simp only [CapabilitySlot.isFree, hr', Bool.not_true, Bool.and_false] at hfree
    cases hfree
  · intro e hse
    obtain rfl : entry = e := by simpa using hse
    exact he

/-- Filling a free slot with a well-formed entry keeps the table valid. -/
theorem TableOk.setEntry {t : CapabilityTable} (h : TableOk t) (hs : t.state ≠ .closing)
    {i : Fin capabilitySlotCount} (hfree : (t.slotAt i).isFree = true) {entry : CapabilityEntry}
    (he : EntryOk t.taskId t.taskGeneration entry) : TableOk (setEntry i entry t) :=
  h.set_slot hs i ((h.slots_wf t.slots[i] (Vector.getElem_mem i.isLt)).fill hfree he)

/-- `duplicate` either refuses and leaves the table alone, or copies an endpoint entry with fewer
rights into a free slot. -/
theorem run_duplicate_slot (task gen source requested : UInt64) (t : CapabilityTable) :
    (∃ status ∈ handleStatuses, (duplicate task gen source requested).run t = (.error status, t)) ∨
    ∃ (j i : Fin capabilitySlotCount) (entry : CapabilityEntry) (handle : UInt64),
      t.state = .live ∧ (t.slotAt j).entry = some entry ∧ entry.objectType = objectTypeEndpoint ∧
      validRights objectTypeEndpoint requested = true ∧ requested &&& ~~~entry.rights = 0 ∧
      (t.slotAt i).isFree = true ∧
      CapabilityHandle.fromParts i (t.slotAt i).generation = some ⟨handle⟩ ∧
      (duplicate task gen source requested).run t =
        (.ok handle, setEntry i { entry with rights := requested } t) := by
  unfold duplicate
  rw [run_bind, run_query]
  rcases hres : t.resolveTyped task gen source objectTypeEndpoint capabilityRightDuplicate
    with status | entry
  · exact .inl ⟨status, resolveTyped_error hres, rfl⟩
  · dsimp only
    rw [run_ite]
    split
    · exact .inl ⟨.invalidRights, by decide, rfl⟩
    · rename_i hrights
      simp only [not_or, not_not, ne_eq] at hrights
      obtain ⟨hlive, -, -, j, -, -, hj, -, -, htype, -⟩ := resolveTyped_eq_ok.mp hres
      rcases run_allocate { entry with rights := requested } t
        with h | ⟨i, handle, hfree, hparts, hrun⟩
      · exact .inl h
      · exact .inr ⟨j, i, entry, handle, hlive, hj, htype, hrights.1, hrights.2, hfree, hparts, hrun⟩

theorem run_duplicate (task gen source requested : UInt64) (t : CapabilityTable) :
    (∃ status ∈ handleStatuses, (duplicate task gen source requested).run t = (.error status, t)) ∨
    ∃ handle t', Duplicated requested t t' ∧
      (duplicate task gen source requested).run t = (.ok handle, t') := by
  rcases run_duplicate_slot task gen source requested t
    with h | ⟨j, i, entry, handle, hlive, hj, htype, hvalid, hsub, hfree, -, hrun⟩
  · exact .inl h
  · exact .inr ⟨handle, _, ⟨hlive, j, i, entry, hj, hfree, htype, hvalid, hsub, rfl⟩, hrun⟩

/-- `close` either refuses and leaves the table alone, or clears the slot that the word names. -/
theorem run_close_slot (task gen raw : UInt64) (t : CapabilityTable) :
    (close task gen raw).run t = (.error .invalidHandle, t) ∨
      ∃ i, t.state = .live ∧ CapabilityHandle.decode raw = some (i, (t.slotAt i).generation) ∧
        (t.slotAt i).retired = false ∧ (t.slotAt i).entry ≠ none ∧
        (close task gen raw).run t =
          (.ok (), { t with slots := t.slots.set i (t.slotAt i).removeEntry i.isLt }) := by
  unfold close
  simp only [run_self_bind, run_ite]
  split
  · exact .inl rfl
  · rename_i hlive
    simp only [not_or, not_not, ne_eq] at hlive
    rcases hd : CapabilityHandle.decode raw with _ | ⟨i, g⟩
    · exact .inl rfl
    · simp only [run_ite]
      split
      · exact .inl rfl
      · rename_i hslot
        simp only [not_or, not_not, ne_eq, Bool.not_eq_true] at hslot
        obtain ⟨hretired, rfl, hentry⟩ := hslot
        exact .inr ⟨i, hlive.1, rfl, hretired, hentry, rfl⟩

theorem run_close (task gen raw : UInt64) (t : CapabilityTable) :
    (close task gen raw).run t = (.error .invalidHandle, t) ∨
      ∃ t', Closed t t' ∧ (close task gen raw).run t = (.ok (), t') := by
  rcases run_close_slot task gen raw t with h | ⟨i, hlive, -, -, hentry, hrun⟩
  · exact .inl h
  · exact .inr ⟨_, ⟨hlive, i, hentry, rfl⟩, hrun⟩

/-- `install_object_building` either refuses and leaves the table alone, or fills a free slot. -/
theorem run_installObjectBuilding (objectType : UInt32) (object : ObjectReference)
    (rights : UInt64) (t : CapabilityTable) :
    (installObjectBuilding objectType object rights).run t = (.error .capabilityInvariant, t) ∨
      ∃ (i : Fin capabilitySlotCount) (handle : UInt64), (t.slotAt i).isFree = true ∧
        CapabilityHandle.fromParts i (t.slotAt i).generation = some ⟨handle⟩ ∧
        validRights objectType rights = true ∧ object.id ≠ 0 ∧ object.generation ≠ 0 ∧ t.state = .building ∧
        (installObjectBuilding objectType object rights).run t =
          (.ok handle, setEntry i { taskId := t.taskId, taskGeneration := t.taskGeneration,
                                    objectType, rights, object } t) := by
  unfold installObjectBuilding
  simp only [run_self_bind, run_ite]
  split
  · exact .inl rfl
  · rename_i hguard
    simp only [not_or, not_not, ne_eq] at hguard
    obtain ⟨h1, h2, -, -, h5, h6⟩ := hguard
    rw [run_onPart]
    rcases run_allocate { taskId := t.taskId, taskGeneration := t.taskGeneration, objectType,
                          rights, object } t
      with ⟨status, -, hrun⟩ | ⟨i, handle, hfree, hparts, hrun⟩
    · left
      simp only [id, hrun]
    · refine .inr ⟨i, handle, hfree, hparts, h2, h5, h6, h1, ?_⟩
      simp only [id, hrun]

theorem run_publish {t : CapabilityTable} (h : t.state = .building) :
    publish.run t = (.ok (), { t with state := .live }) := by
  unfold publish
  simp only [run_self_bind, h, ne_eq, not_true_eq_false, if_false]
  rfl

/-! ## What the changes keep -/

/-- The table belongs to the same task and is in the same state. -/
def SameOwner (t t' : CapabilityTable) : Prop :=
  t'.taskId = t.taskId ∧ t'.taskGeneration = t.taskGeneration ∧ t'.state = t.state

theorem TableOk.entry {t : CapabilityTable} (h : TableOk t) {i : Fin capabilitySlotCount}
    {entry : CapabilityEntry} (he : (t.slotAt i).entry = some entry) :
    EntryOk t.taskId t.taskGeneration entry :=
  (h.slots_wf _ (Vector.getElem_mem i.isLt)).entry_ok entry he

theorem Duplicated.keeps {requested : UInt64} {t t' : CapabilityTable}
    (h : Duplicated requested t t') (ht : TableOk t) : TableOk t' ∧ SameOwner t t' := by
  obtain ⟨hlive, source, i, entry, hentry, hfree, htype, hvalid, -, rfl⟩ := h
  have he := ht.entry hentry
  refine ⟨ht.setEntry (by rw [hlive]; decide) hfree ?_, rfl, rfl, rfl⟩
  exact ⟨he.task, he.generation, he.object_type, htype ▸ hvalid, he.object_id,
    he.object_generation⟩

theorem Duplicated.entries {requested : UInt64} {t t' : CapabilityTable}
    {P : CapabilityEntry → Prop} (h : Duplicated requested t t') (ht : Entries P t)
    (hP : ∀ entry, P entry → entry.objectType = objectTypeEndpoint →
      requested &&& ~~~entry.rights = 0 → P { entry with rights := requested }) :
    Entries P t' := by
  obtain ⟨-, source, i, entry, hentry, -, htype, -, hsub, rfl⟩ := h
  exact ht.setEntry i (hP entry (ht.get hentry) htype hsub)

theorem Closed.keeps {t t' : CapabilityTable} (h : Closed t t') (ht : TableOk t) :
    TableOk t' ∧ SameOwner t t' := by
  obtain ⟨hlive, i, -, rfl⟩ := h
  refine ⟨ht.set_slot (by rw [hlive]; decide) i ?_, rfl, rfl, rfl⟩
  exact (ht.slots_wf _ (Vector.getElem_mem i.isLt)).removeEntry

theorem Closed.entries {t t' : CapabilityTable} {P : CapabilityEntry → Prop} (h : Closed t t')
    (ht : Entries P t) : Entries P t' := by
  obtain ⟨-, i, -, rfl⟩ := h
  exact ht.removeEntry i

theorem Launched.keeps {t t' : CapabilityTable} (h : Launched t t') (ht : TableOk t) :
    TableOk t' ∧ t'.taskId = t.taskId ∧ t'.taskGeneration = t.taskGeneration
      ∧ t'.state = .live := by
  obtain ⟨hbuilding, i, hfree, rfl⟩ := h
  have hentry : EntryOk t.taskId t.taskGeneration
      { taskId := t.taskId, taskGeneration := t.taskGeneration,
        objectType := objectTypeApprovalBroker, rights := capabilityRightSubmitApproval,
        object := { id := approvalBrokerObjectId, generation := fixedObjectGeneration } } :=
    ⟨rfl, rfl, show objectTypeApprovalBroker ≠ 0 by decide,
      show validRights objectTypeApprovalBroker capabilityRightSubmitApproval = true by decide,
      show approvalBrokerObjectId ≠ 0 by decide, show fixedObjectGeneration ≠ 0 by decide⟩
  have hset := ht.setEntry (by rw [hbuilding]; decide) hfree hentry
  refine ⟨⟨hset.task_ne, hset.generation_ne, ?_, hset.slots_wf⟩, rfl, rfl, rfl⟩
  intro hc
  cases hc

/-! ## Closing a table -/

theorem closed_entry {t : CapabilityTable} {slot : CapabilitySlot} (h : slot ∈ t.closed.slots) :
    slot.entry = none := by
  obtain ⟨s, -, rfl⟩ := Vector.mem_map.mp h
  split
  · exact removeEntry_entry s
  · rename_i hnone
    simpa using hnone

theorem TableOk.closed {t : CapabilityTable} (h : TableOk t) : TableOk t.closed := by
  refine ⟨h.task_ne, h.generation_ne, fun _ slot hslot => closed_entry hslot, ?_⟩
  intro slot hslot
  obtain ⟨s, hs, rfl⟩ := Vector.mem_map.mp hslot
  split
  · exact (h.slots_wf s hs).removeEntry
  · exact h.slots_wf s hs

theorem run_markClosing {t : CapabilityTable} (h : t.state = .live) :
    markClosing.run t = (.ok (), { t with state := .closing }) := by
  unfold markClosing
  simp only [run_self_bind, h, ne_eq, not_true_eq_false, if_false]
  rfl

theorem run_closeAll {t : CapabilityTable} (h : t.state = .closing) :
    closeAll.run t = (.ok (), t.closed) := by
  have hclosed : { t with slots := t.slots.map fun s => if s.entry.isSome then s.removeEntry else s }
      = t.closed := by
    unfold closed
    rw [← h]
  have hnone : t.closed.slots.any (·.entry.isSome) = false := by
    rw [Bool.eq_false_iff]
    intro hany
    rw [Vector.any_eq_true'] at hany
    obtain ⟨slot, hslot, hsome⟩ := hany
    rw [closed_entry hslot] at hsome
    cases hsome
  unfold closeAll
  simp only [run_self_bind, h, ne_eq, not_true_eq_false, if_false]
  simp only [run_update_bind, run_self_bind, hclosed, hnone,
    Bool.false_eq_true, if_false, run_pure]

theorem run_beginClosing {t : CapabilityTable} (h : t.state = .live) :
    beginClosing.run t = (.ok (), t.closed) := by
  unfold beginClosing
  rw [run_bind_ok (run_markClosing h), run_closeAll rfl]
  rfl

theorem run_finishDead {t : CapabilityTable} (h : t.state = .closing) (hok : TableOk t) :
    finishDead.run t = (.ok (), dead) := by
  have hnone : t.slots.any (·.entry.isSome) = false := by
    rw [Bool.eq_false_iff]
    intro hany
    rw [Vector.any_eq_true'] at hany
    obtain ⟨slot, hslot, hsome⟩ := hany
    rw [hok.closing_empty h slot hslot] at hsome
    cases hsome
  unfold finishDead
  simp only [run_self_bind, h, hnone, ne_eq, not_true_eq_false, Bool.false_eq_true, or_self,
    if_false]
  rfl

end CapabilityTable

end MakopaVerified.TaskRuntime
