import MakopaVerified.TaskRuntime.Handles
import MakopaVerified.TaskRuntime.Proofs.TableProofs

/-!
# A handle word is used once

A slot issues at most one word in each generation, and goes on to the next generation, or retires,
when that word is closed. So the words of a table are a name space: no word is issued twice, and a
closed one stands for nothing again.
-/

namespace MakopaVerified.TaskRuntime

open Foundation Method

/-! ## Words -/

namespace CapabilityHandle

theorem decode_eq_some {raw generation : UInt64} {i : Fin capabilitySlotCount} :
    decode raw = some (i, generation) ↔
      generation ≠ 0 ∧ raw.toNat = generation.toNat * 16 + i.val := by
  have hshift : (raw >>> capabilitySlotBits).toNat = raw.toNat / 16 := by
    rw [UInt64.toNat_shiftRight]
    show raw.toNat >>> 4 = _
    rw [Nat.shiftRight_eq_div_pow]
  have hslot : (slotIndex raw).val = raw.toNat % 16 := by
    show (raw &&& 0xf).toNat = _
    rw [UInt64.toNat_and]
    exact Nat.and_two_pow_sub_one_eq_mod raw.toNat 4
  have hi := i.isLt
  have hcount : capabilitySlotCount = 16 := rfl
  unfold decode
  constructor
  · intro h
    split at h
    · cases h
    · rename_i hne
      simp only [Option.some.injEq, Prod.mk.injEq] at h
      obtain ⟨rfl, rfl⟩ := h
      refine ⟨hne, ?_⟩
      rw [hshift, hslot]
      omega
  · rintro ⟨hne, hraw⟩
    have hgeneration : raw >>> capabilitySlotBits = generation := by
      rw [← UInt64.toNat_inj, hshift]
      omega
    rw [hgeneration, if_neg hne]
    have hindex : slotIndex raw = i := by
      apply Fin.ext
      rw [hslot]
      omega
    rw [hindex]

/-- Two words with the same slot and generation are the same. -/
theorem decode_inj {raw raw' generation : UInt64} {i : Fin capabilitySlotCount}
    (h : decode raw = some (i, generation)) (h' : decode raw' = some (i, generation)) :
    raw = raw' := by
  rw [← UInt64.toNat_inj, (decode_eq_some.mp h).2, (decode_eq_some.mp h').2]

/-- A word that was put together from a slot and a generation comes apart into them. -/
theorem decode_fromParts {generation raw : UInt64} {i : Fin capabilitySlotCount}
    (h : fromParts i generation = some ⟨raw⟩) : decode raw = some (i, generation) := by
  unfold fromParts at h
  split at h
  · cases h
  · rename_i hok
    simp only [not_or, Nat.not_le, ge_iff_le] at hok
    obtain ⟨hi, hne, hle⟩ := hok
    have hmax : generation.toNat ≤ 0x0fffffffffffffff := by
      have hle := UInt64.le_iff_toNat_le.mp (UInt64.not_lt.mp hle)
      exact hle
    have hcount : capabilitySlotCount = 16 := rfl
    simp only [Option.some.injEq, CapabilityHandle.mk.injEq] at h
    rw [decode_eq_some]
    refine ⟨hne, ?_⟩
    have hslot : (UInt64.ofNat i.val).toNat = i.val := by
      rw [UInt64.toNat_ofNat_of_lt']
      show i.val < 2 ^ 64
      omega
    have hshift : (generation <<< capabilitySlotBits).toNat = generation.toNat <<< 4 := by
      rw [UInt64.toNat_shiftLeft]
      apply Nat.mod_eq_of_lt
      show generation.toNat <<< 4 < 2 ^ 64
      rw [Nat.shiftLeft_eq]
      omega
    rw [← h, UInt64.toNat_or, hshift, hslot, ← Nat.shiftLeft_add_eq_or_of_lt (by omega),
      Nat.shiftLeft_eq]

end CapabilityHandle

/-! ## Slots -/

namespace CapabilitySlot

variable {slot : CapabilitySlot} {generation : UInt64}

theorem isFree_iff : slot.isFree = true ↔ slot.entry = none ∧ slot.retired = false := by
  unfold isFree
  rw [Bool.and_eq_true, Option.isNone_iff_eq_none, Bool.not_eq_true']

theorem lookup_of_free (h : slot.isFree = true) : slot.lookup generation = none := by
  unfold lookup
  rw [(isFree_iff.mp h).1]
  split <;> rfl

/-- The word of its generation is still to be issued by a free slot. -/
theorem not_used_of_free (h : slot.isFree = true) : ¬ slot.Used slot.generation := by
  obtain ⟨hentry, hretired⟩ := isFree_iff.mp h
  rintro (hlt | ⟨-, hne | hret⟩)
  · exact absurd hlt (UInt64.lt_irrefl _)
  · exact hne hentry
  · rw [hretired] at hret
    cases hret

theorem used_fill (h : slot.isFree = true) (entry : CapabilityEntry) :
    ({ slot with entry := some entry } : CapabilitySlot).Used generation ↔
      generation = slot.generation ∨ slot.Used generation := by
  obtain ⟨hentry, hretired⟩ := isFree_iff.mp h
  unfold Used
  simp only [hentry, hretired]
  simp [or_comm]

theorem lookup_self (h : slot.retired = false) : slot.lookup slot.generation = slot.entry := by
  unfold lookup
  simp [h]

theorem lookup_fill (h : slot.isFree = true) (entry : CapabilityEntry) :
    ({ slot with entry := some entry } : CapabilitySlot).lookup slot.generation = some entry := by
  unfold lookup
  simp [(isFree_iff.mp h).2]

theorem lookup_fill_of_ne (h : slot.isFree = true) (entry : CapabilityEntry)
    (hne : generation ≠ slot.generation) :
    ({ slot with entry := some entry } : CapabilitySlot).lookup generation =
      slot.lookup generation := by
  rw [lookup_of_free h]
  unfold lookup
  rw [if_pos (.inr hne.symm)]

theorem lookup_removeEntry : slot.removeEntry.lookup generation = none := by
  unfold lookup
  rw [CapabilityTable.removeEntry_entry]
  split <;> rfl

theorem lookup_of_ne (hne : generation ≠ slot.generation) : slot.lookup generation = none := by
  unfold lookup
  rw [if_pos (.inr hne.symm)]

/-- Closing the word of a slot issues no other one. -/
theorem used_removeEntry (hentry : slot.entry ≠ none) (hretired : slot.retired = false)
    (hle : slot.generation ≤ capabilityGenerationMax) :
    slot.removeEntry.Used generation ↔ slot.Used generation := by
  have hused : slot.Used generation ↔ generation ≤ slot.generation := by
    unfold Used
    rw [UInt64.le_iff_lt_or_eq]
    simp [hentry]
  rw [hused]
  unfold removeEntry
  split
  · unfold Used
    rw [UInt64.le_iff_lt_or_eq]
    simp
  · rename_i hne
    have hmax : slot.generation.toNat ≠ capabilityGenerationMax.toNat :=
      fun he => hne (UInt64.toNat_inj.mp he)
    have hle := UInt64.le_iff_toNat_le.mp hle
    have hbound : capabilityGenerationMax.toNat = 0x0fffffffffffffff := rfl
    have hsucc : (slot.generation + 1).toNat = slot.generation.toNat + 1 := by
      apply toNat_add_of_lt
      show slot.generation.toNat + 1 < 2 ^ 64
      omega
    unfold Used
    simp only [hretired, ne_eq, not_true_eq_false, Bool.false_eq_true, or_self, and_false, or_false]
    rw [UInt64.lt_iff_toNat_lt, UInt64.le_iff_toNat_le, hsucc]
    omega

end CapabilitySlot

/-! ## Tables -/

namespace CapabilityTable

variable {t t' : CapabilityTable} {raw : UInt64} {result : Except RuntimeError Unit}

/-- Every slot is well formed for the owner of the table. -/
def SlotsWf (t : CapabilityTable) : Prop := ∀ slot ∈ t.slots, SlotWf t.taskId t.taskGeneration slot

theorem SlotsWf.get (h : t.SlotsWf) (i : Fin capabilitySlotCount) :
    SlotWf t.taskId t.taskGeneration (t.slotAt i) := h _ (Vector.getElem_mem i.isLt)

theorem slots_set_self (i : Fin capabilitySlotCount) (slot : CapabilitySlot) :
    ({ t with slots := t.slots.set i slot i.isLt } : CapabilityTable).slotAt i = slot :=
  Vector.getElem_set_self ..

theorem slots_set_of_ne {i j : Fin capabilitySlotCount} (slot : CapabilitySlot) (h : j ≠ i) :
    ({ t with slots := t.slots.set i slot i.isLt } : CapabilityTable).slotAt j = t.slotAt j :=
  Vector.getElem_set_ne i.isLt j.isLt fun he => h (Fin.ext he.symm)

theorem lookup_of_decode {i : Fin capabilitySlotCount} {generation : UInt64}
    (h : CapabilityHandle.decode raw = some (i, generation)) :
    t.lookup raw = (t.slotAt i).lookup generation := by
  unfold lookup
  rw [h]
  rfl

theorem issued_of_decode {i : Fin capabilitySlotCount} {generation : UInt64}
    (h : CapabilityHandle.decode raw = some (i, generation)) :
    t.Issued raw ↔ (t.slotAt i).Used generation := by
  constructor
  · rintro ⟨j, g, hd, hused⟩
    rw [h, Option.some.injEq, Prod.mk.injEq] at hd
    obtain ⟨rfl, rfl⟩ := hd
    exact hused
  · exact fun hused => ⟨i, generation, h, hused⟩

/-- A changed slot changes what its words stand for and no other. -/
theorem lookup_set {i : Fin capabilitySlotCount} {slot : CapabilitySlot} {m : UInt64}
    (h : ∀ generation, CapabilityHandle.decode m = some (i, generation) →
      slot.lookup generation = (t.slotAt i).lookup generation) :
    ({ t with slots := t.slots.set i slot i.isLt } : CapabilityTable).lookup m = t.lookup m := by
  cases hd : CapabilityHandle.decode m with
  | none =>
    unfold lookup
    rw [hd]
    rfl
  | some p =>
    obtain ⟨j, g⟩ := p
    rw [lookup_of_decode hd, lookup_of_decode hd]
    by_cases hji : j = i
    · subst hji
      rw [slots_set_self]
      exact h g hd
    · rw [slots_set_of_ne slot hji]

/-- A changed slot changes which of its words are issued and no other. -/
theorem issued_set {i : Fin capabilitySlotCount} {slot : CapabilitySlot} {m : UInt64}
    (h : ∀ generation, CapabilityHandle.decode m = some (i, generation) →
      (slot.Used generation ↔ (t.slotAt i).Used generation)) :
    ({ t with slots := t.slots.set i slot i.isLt } : CapabilityTable).Issued m ↔ t.Issued m := by
  cases hd : CapabilityHandle.decode m with
  | none => simp [Issued, hd]
  | some p =>
    obtain ⟨j, g⟩ := p
    rw [issued_of_decode hd, issued_of_decode hd]
    by_cases hji : j = i
    · subst hji
      rw [slots_set_self]
      exact h g hd
    · rw [slots_set_of_ne slot hji]

/-- Filling a free slot issues the word of the slot. -/
theorem setEntry_issues {i : Fin capabilitySlotCount} (hfree : (t.slotAt i).isFree = true)
    (hparts : CapabilityHandle.fromParts i (t.slotAt i).generation = some ⟨raw⟩)
    (entry : CapabilityEntry) :
    t.nameSpace.Step (.issue raw) (setEntry i entry t).nameSpace := by
  have hraw := CapabilityHandle.decode_fromParts hparts
  have hword : ∀ m generation, m ≠ raw → CapabilityHandle.decode m = some (i, generation) →
      generation ≠ t.slots[i].generation := by
    rintro m generation hne hm rfl
    exact hne (CapabilityHandle.decode_inj hm hraw)
  refine .issue id id ?_ (fun m => ?_) ?_ (fun m hne => ?_)
  · show ¬ t.Issued raw
    rw [issued_of_decode hraw]
    exact CapabilitySlot.not_used_of_free hfree
  · show (setEntry i entry t).Issued m ↔ m = raw ∨ t.Issued m
    by_cases hm : m = raw
    · subst hm
      rw [issued_of_decode hraw]
      unfold setEntry
      rw [slots_set_self, CapabilitySlot.used_fill hfree]
      simp
    · simp only [hm, false_or]
      refine issued_set fun g hd => ?_
      rw [CapabilitySlot.used_fill hfree]
      exact or_iff_right (hword m g hm hd)
  · show (setEntry i entry t).lookup raw ≠ none
    rw [lookup_of_decode hraw]
    unfold setEntry
    rw [slots_set_self, CapabilitySlot.lookup_fill hfree]
    exact Option.some_ne_none entry
  · exact lookup_set fun g hd => CapabilitySlot.lookup_fill_of_ne hfree entry (hword m g hne hd)

/-- Clearing a slot closes its word. -/
theorem removeEntry_closes (hwf : t.SlotsWf) {i : Fin capabilitySlotCount}
    (hraw : CapabilityHandle.decode raw = some (i, (t.slotAt i).generation))
    (hretired : (t.slotAt i).retired = false) (hentry : (t.slotAt i).entry ≠ none) :
    t.nameSpace.Step (.close raw) (nameSpace
      { t with slots := t.slots.set i (t.slotAt i).removeEntry i.isLt }) := by
  refine .close id id (fun m => ?_) ?_ ?_ (fun m hne => ?_)
  · exact issued_set fun g _ =>
      CapabilitySlot.used_removeEntry hentry hretired (hwf.get i).generation_le
  · show t.lookup raw ≠ none
    rw [lookup_of_decode hraw, CapabilitySlot.lookup_self hretired]
    exact hentry
  · show ({ t with slots := t.slots.set i t.slots[i].removeEntry } : CapabilityTable).lookup raw = _
    rw [lookup_of_decode hraw, slots_set_self]
    exact CapabilitySlot.lookup_removeEntry
  · refine lookup_set fun g hd => ?_
    have hg : g ≠ t.slots[i].generation := by
      rintro rfl
      exact hne (CapabilityHandle.decode_inj hd hraw)
    rw [CapabilitySlot.lookup_removeEntry, CapabilitySlot.lookup_of_ne hg]

/-! ## Well-formed slots -/

theorem SlotsWf.of_replicate {taskId taskGeneration : UInt64} {state : CapabilityTableState} :
    SlotsWf { taskId, taskGeneration, state,
              slots := Vector.replicate capabilitySlotCount CapabilitySlot.empty } := by
  intro slot hslot
  rw [(Vector.mem_replicate.mp hslot).2]
  exact ⟨show (1 : UInt64) ≠ 0 by decide, show (1 : UInt64) ≤ capabilityGenerationMax by decide,
    fun _ => rfl, nofun⟩

theorem SlotsWf.setEntry (h : t.SlotsWf) {i : Fin capabilitySlotCount}
    (hfree : (t.slotAt i).isFree = true) {entry : CapabilityEntry}
    (he : EntryOk t.taskId t.taskGeneration entry) : (setEntry i entry t).SlotsWf := by
  intro slot hslot
  rcases mem_set hslot with rfl | hold
  · exact (h.get i).fill hfree he
  · exact h slot hold

theorem SlotsWf.removeEntry (h : t.SlotsWf) (i : Fin capabilitySlotCount) :
    SlotsWf { t with slots := t.slots.set i (t.slotAt i).removeEntry i.isLt } := by
  intro slot hslot
  rcases mem_set hslot with rfl | hold
  · exact (h.get i).removeEntry
  · exact h slot hold

theorem SlotsWf.closed (h : t.SlotsWf) : t.closed.SlotsWf := by
  intro slot hslot
  obtain ⟨s, hs, rfl⟩ := Vector.mem_map.mp hslot
  split
  · exact (h s hs).removeEntry
  · exact h s hs

theorem objectType_ne_of_validRights {objectType : UInt32} {rights : UInt64}
    (h : validRights objectType rights = true) : objectType ≠ 0 := by
  rintro rfl
  unfold validRights at h
  split at h <;> cases h

theorem rights_ne_of_validRights {objectType : UInt32} {rights : UInt64}
    (h : validRights objectType rights = true) : rights ≠ 0 := by
  rintro rfl
  cases h

/-! ## The calls that change the state of a table -/

theorem publish_eq (h : publish.run t = (result, t')) :
    (∃ e, result = .error e ∧ t' = t) ∨
      t.state = .building ∧ result = .ok () ∧ t' = { t with state := .live } := by
  by_cases hstate : t.state = .building
  · rw [run_publish hstate, Prod.mk.injEq] at h
    exact .inr ⟨hstate, h.1.symm, h.2.symm⟩
  · unfold publish at h
    rw [run_self_bind] at h
    rw [if_pos hstate] at h
    obtain ⟨rfl, rfl⟩ := Prod.mk.inj h
    exact .inl ⟨_, rfl, rfl⟩

theorem markClosing_eq (h : markClosing.run t = (result, t')) :
    (∃ e, result = .error e ∧ t' = t) ∨
      t.state = .live ∧ result = .ok () ∧ t' = { t with state := .closing } := by
  by_cases hstate : t.state = .live
  · rw [run_markClosing hstate, Prod.mk.injEq] at h
    exact .inr ⟨hstate, h.1.symm, h.2.symm⟩
  · unfold markClosing at h
    rw [run_self_bind] at h
    rw [if_pos hstate] at h
    obtain ⟨rfl, rfl⟩ := Prod.mk.inj h
    exact .inl ⟨_, rfl, rfl⟩

theorem closeAll_eq (h : closeAll.run t = (result, t')) :
    t' = t ∨ t.state = .closing ∧ t' = t.closed := by
  by_cases hstate : t.state = .closing
  · rw [run_closeAll hstate, Prod.mk.injEq] at h
    exact .inr ⟨hstate, h.2.symm⟩
  · unfold closeAll at h
    rw [run_self_bind] at h
    rw [if_pos hstate] at h
    exact .inl (Prod.mk.inj h).2.symm

theorem finishDead_eq (h : finishDead.run t = (result, t')) :
    t' = t ∨ t.state = .closing ∧ t' = dead := by
  unfold finishDead at h
  rw [run_self_bind] at h
  split at h
  · exact .inl (Prod.mk.inj h).2.symm
  · rename_i hok
    rw [not_or, not_not] at hok
    exact .inr ⟨hok.1, (Prod.mk.inj h).2.symm⟩

/-! ## Runs -/

theorem Stands.of_open (h : t.state = .building ∨ t.state = .live) : t.Stands t.nameSpace := by
  refine ⟨fun _ => rfl, fun hs => ?_⟩
  rcases h with h | h <;> simp [h] at hs

theorem Stands.of_shut {s : NameSpace UInt64 CapabilityEntry}
    (h : t.state = .closing ∨ t.state = .dead) (hs : s.shut) : t.Stands s := by
  refine ⟨fun ho => ?_, fun _ => hs⟩
  rcases h with h | h <;> simp [h] at ho

/-- Nothing has been issued by a table that is being built. -/
theorem nameSpace_building (taskId taskGeneration : UInt64) :
    (building taskId taskGeneration).nameSpace = NameSpace.fresh := by
  have hslot : ∀ i : Fin capabilitySlotCount,
      (building taskId taskGeneration).slotAt i = CapabilitySlot.empty := fun i =>
    Vector.getElem_replicate i.isLt
  have hissued : ∀ raw, ¬ (building taskId taskGeneration).Issued raw := by
    rintro raw ⟨i, g, hd, hused⟩
    rw [hslot] at hused
    have hne := (CapabilityHandle.decode_eq_some.mp hd).1
    rcases hused with hlt | ⟨-, hentry | hretired⟩
    · have hlt : g.toNat < 1 := UInt64.lt_iff_toNat_lt.mp hlt
      exact hne (UInt64.toNat_inj.mp (show g.toNat = 0 by omega))
    · exact hentry rfl
    · cases hretired
  refine NameSpace.ext ?_ ?_ rfl
  · funext raw
    exact propext ⟨hissued raw, False.elim⟩
  · funext raw
    by_contra hne
    exact hissued raw (issued_of_lookup hne)

/-- Each call does to the words what its event says. -/
theorem Stands.step {s : NameSpace UInt64 CapabilityEntry} {e : TableEvent} (hwf : t.SlotsWf)
    (h : t.Stands s) (he : e.Does t t') :
    ∃ s', s.Step e.name s' ∧ t'.SlotsWf ∧ t'.Stands s' := by
  cases e with
  | install objectType object rights result =>
    rcases run_installObjectBuilding objectType object rights t
      with hrun | ⟨i, raw, hfree, hparts, hrights, hid, hgen, hbuilding, hrun⟩
    · obtain ⟨rfl, rfl⟩ := Prod.mk.inj (hrun.symm.trans he)
      exact ⟨s, .other, hwf, h⟩
    · obtain ⟨rfl, rfl⟩ := Prod.mk.inj (hrun.symm.trans he)
      obtain rfl := h.slots_open (.inl hbuilding)
      exact ⟨_, setEntry_issues hfree hparts _,
        hwf.setEntry hfree ⟨rfl, rfl, objectType_ne_of_validRights hrights, hrights, hid, hgen⟩,
        .of_open (.inl hbuilding)⟩
  | publish result =>
    rcases publish_eq he with ⟨err, rfl, rfl⟩ | ⟨hbuilding, rfl, rfl⟩
    · exact ⟨s, .other, hwf, h⟩
    · obtain rfl := h.slots_open (.inl hbuilding)
      exact ⟨_, .other, hwf, @Stands.of_open { t with state := .live } (.inr rfl)⟩
  | duplicate taskId taskGeneration source requested result =>
    rcases run_duplicate_slot taskId taskGeneration source requested t
      with ⟨status, -, hrun⟩ | ⟨j, i, entry, raw, hlive, hj, htype, hvalid, -, hfree, hparts, hrun⟩
    · obtain ⟨rfl, rfl⟩ := Prod.mk.inj (hrun.symm.trans he)
      exact ⟨s, .other, hwf, h⟩
    · obtain ⟨rfl, rfl⟩ := Prod.mk.inj (hrun.symm.trans he)
      obtain rfl := h.slots_open (.inr hlive)
      have hok := (hwf.get j).entry_ok entry hj
      exact ⟨_, setEntry_issues hfree hparts _,
        hwf.setEntry hfree ⟨hok.task, hok.generation, hok.object_type, htype ▸ hvalid,
          hok.object_id, hok.object_generation⟩, .of_open (.inr hlive)⟩
  | close taskId taskGeneration raw result =>
    rcases run_close_slot taskId taskGeneration raw t
      with hrun | ⟨i, hlive, hraw, hretired, hentry, hrun⟩
    · obtain ⟨rfl, rfl⟩ := Prod.mk.inj (hrun.symm.trans he)
      exact ⟨s, .other, hwf, h⟩
    · obtain ⟨rfl, rfl⟩ := Prod.mk.inj (hrun.symm.trans he)
      obtain rfl := h.slots_open (.inr hlive)
      exact ⟨_, removeEntry_closes hwf hraw hretired hentry, hwf.removeEntry i,
        .of_open (.inr hlive)⟩
  | markClosing result =>
    rcases markClosing_eq he with ⟨err, rfl, rfl⟩ | ⟨hlive, rfl, rfl⟩
    · exact ⟨s, .other, hwf, h⟩
    · exact ⟨s.close, .shut, hwf, .of_shut (.inl rfl) trivial⟩
  | closeAll result =>
    refine ⟨s, ?_, ?_⟩
    · cases result <;> exact .other
    · rcases closeAll_eq he with rfl | ⟨hclosing, rfl⟩
      · exact ⟨hwf, h⟩
      · exact ⟨hwf.closed, .of_shut (.inl rfl) (h.slots_shut (.inl hclosing))⟩
  | finishDead result =>
    refine ⟨s, ?_, ?_⟩
    · cases result <;> exact .other
    · rcases finishDead_eq he with rfl | ⟨hclosing, rfl⟩
      · exact ⟨hwf, h⟩
      · exact ⟨.of_replicate, .of_shut (.inr rfl) (h.slots_shut (.inl hclosing))⟩

/-- Every life of a table is a run of a name space. -/
theorem table_simulates {taskId taskGeneration : UInt64} {history : List TableEvent}
    (h : Run (tableSystem taskId taskGeneration) history t) :
    ∃ s, Run (nameSystem UInt64 CapabilityEntry) (history.map TableEvent.name) s ∧
      t.SlotsWf ∧ t.Stands s := by
  refine h.simulate (nameSystem UInt64 CapabilityEntry) (fun t s => t.SlotsWf ∧ t.Stands s)
    TableEvent.name ?_ fun t s e t' ⟨hwf, hstands⟩ he => hstands.step hwf he
  rintro t rfl
  exact ⟨_, nameSpace_building _ _, .of_replicate, .of_open (.inl rfl)⟩

/-- In a live table the words that resolve are those that stand for an entry. -/
theorem names_iff (hwf : t.SlotsWf) (hlive : t.state = .live) {entry : CapabilityEntry} :
    t.Names raw entry ↔ t.lookup raw = some entry := by
  constructor
  · rintro ⟨taskId, taskGeneration, objectType, right, hres⟩
    obtain ⟨-, -, -, i, hd, hretired, hentry, -⟩ := resolveTyped_eq_ok.mp hres
    rw [lookup_of_decode hd, CapabilitySlot.lookup_self hretired, hentry]
  · intro h
    cases hd : CapabilityHandle.decode raw with
    | none =>
      unfold lookup at h
      rw [hd] at h
      cases h
    | some p =>
      obtain ⟨i, g⟩ := p
      rw [lookup_of_decode hd] at h
      unfold CapabilitySlot.lookup at h
      split at h
      · cases h
      · rename_i hslot
        simp only [not_or, not_not, Bool.not_eq_true, ne_eq] at hslot
        obtain ⟨hretired, rfl⟩ := hslot
        have hok := (hwf.get i).entry_ok entry h
        refine ⟨t.taskId, t.taskGeneration, entry.objectType, entry.rights,
          resolveTyped_eq_ok.mpr ⟨hlive, rfl, rfl, i, hd, hretired, h, hok.task, hok.generation, rfl,
            ?_⟩⟩
        rw [UInt64.and_self]
        exact rights_ne_of_validRights hok.rights

theorem not_names_of_not_live (h : t.state ≠ .live) (raw : UInt64) (entry : CapabilityEntry) :
    ¬ t.Names raw entry := by
  rintro ⟨taskId, taskGeneration, objectType, right, hres⟩
  exact h (resolveTyped_eq_ok.mp hres).1

/-- A `close` or a `duplicate` leaves the state of the table as it is. -/
theorem state_of_selects {e : TableEvent} (he : e.Does t t') (hsel : e.selects = true) :
    t'.state = t.state := by
  cases e with
  | duplicate taskId taskGeneration source requested result =>
    rcases run_duplicate_slot taskId taskGeneration source requested t
      with ⟨status, -, hrun⟩ | ⟨j, i, entry, raw, -, -, -, -, -, -, -, hrun⟩
    · obtain ⟨-, rfl⟩ := Prod.mk.inj (hrun.symm.trans he)
      rfl
    · obtain ⟨-, rfl⟩ := Prod.mk.inj (hrun.symm.trans he)
      rfl
  | close taskId taskGeneration raw result =>
    rcases run_close_slot taskId taskGeneration raw t with hrun | ⟨i, -, -, -, -, hrun⟩
    · obtain ⟨-, rfl⟩ := Prod.mk.inj (hrun.symm.trans he)
      rfl
    · obtain ⟨-, rfl⟩ := Prod.mk.inj (hrun.symm.trans he)
      rfl
  | install | publish | markClosing | closeAll | finishDead => cases hsel

/-- Along every life of a table: no word is issued twice; while the table is live a word names an
entry exactly when it was issued and has not been closed, and otherwise no word does; closing or
duplicating one word does not touch what another issued word names. -/
theorem handles_never_reused {taskId taskGeneration : UInt64} {history : List TableEvent}
    (h : Run (tableSystem taskId taskGeneration) history t) :
    (history.filterMap TableEvent.issued).Nodup ∧
    (t.state = .live → ∀ raw, (∃ entry, t.Names raw entry) ↔
      raw ∈ history.filterMap TableEvent.issued ∧ raw ∉ history.filterMap TableEvent.closed) ∧
    (t.state ≠ .live → ∀ raw entry, ¬ t.Names raw entry) ∧
    ∀ (e : TableEvent) (t' : CapabilityTable), e.Does t t' → e.selects = true →
      ∀ raw ∈ history.filterMap TableEvent.issued, e.closed ≠ some raw →
        ∀ entry, t'.Names raw entry ↔ t.Names raw entry := by
  obtain ⟨s, hrun, hwf, hstands⟩ := table_simulates h
  have hissued : (history.map TableEvent.name).filterMap NameEvent.issues =
      history.filterMap TableEvent.issued := List.filterMap_map ..
  have hclosed : (history.map TableEvent.name).filterMap NameEvent.closes =
      history.filterMap TableEvent.closed := List.filterMap_map ..
  have hnodup := NameSpace.issued_nodup hrun
  rw [hissued] at hnodup
  refine ⟨hnodup, fun hlive raw => ?_, not_names_of_not_live, ?_⟩
  · obtain rfl := hstands.slots_open (.inr hlive)
    rw [← hissued, ← hclosed, ← NameSpace.holds_iff hrun id]
    simp only [names_iff hwf hlive]
    exact Option.ne_none_iff_exists'.symm
  · intro e t' he hsel raw hraw hne entry
    have hstate := state_of_selects he hsel
    by_cases hlive : t.state = .live
    · obtain rfl := hstands.slots_open (.inr hlive)
      obtain ⟨s', hstep, hwf', hstands'⟩ := hstands.step hwf he
      obtain rfl := hstands'.slots_open (.inr (hstate.trans hlive))
      rw [← hissued, ← NameSpace.issued_iff hrun] at hraw
      rw [names_iff hwf hlive, names_iff hwf' (hstate.trans hlive)]
      have hholds : t'.lookup raw = t.lookup raw := hstep.holds_eq id hraw hne
      rw [hholds]
    · exact iff_of_false (not_names_of_not_live (by rwa [hstate]) raw entry)
        (not_names_of_not_live hlive raw entry)

/-- A duplicate is closed and another one made: the slot issues its next word, and the closed one
names nothing. -/
theorem closed_word_stays_closed :
    ∃ history t, Run (tableSystem 1 1) history t ∧ t.state = .live ∧
      history.filterMap TableEvent.issued = [16, 17, 33] ∧ ¬ ∃ entry, t.Names 17 entry := by
  have hinstalled := (Run.start (S := tableSystem 1 1) rfl).step
    (e := TableEvent.install objectTypeEndpoint { id := 1, generation := 1 } 5 (.ok 16))
    (run_eq_of_result (by decide +kernel))
  have hpublished := hinstalled.step (e := TableEvent.publish (.ok ()))
    (run_eq_of_result (by decide +kernel))
  have hduplicated := hpublished.step (e := TableEvent.duplicate 1 1 16 5 (.ok 17))
    (run_eq_of_result (by decide +kernel))
  have hclosed := hduplicated.step (e := TableEvent.close 1 1 17 (.ok ()))
    (run_eq_of_result (by decide +kernel))
  have hrun := hclosed.step (e := TableEvent.duplicate 1 1 16 1 (.ok 33))
    (run_eq_of_result (by decide +kernel))
  refine ⟨_, _, hrun, by decide +kernel, rfl, fun hnames => ?_⟩
  have hiff := (handles_never_reused hrun).2.1 (by decide +kernel) 17
  exact (hiff.mp hnames).2 (by decide)

end CapabilityTable

end MakopaVerified.TaskRuntime
