import MakopaVerified.TaskRuntime.Confinement
import MakopaVerified.TaskRuntime.Proofs.TableProofs

/-!
# The grants of a table

What filling and clearing a slot does to the grants of a table, and what each change that the
kernel can make does to them: they are only ever attenuated or dropped.
-/

namespace MakopaVerified.TaskRuntime

open Foundation

namespace Grant.Within

theorem refl (g : Grant) : g.Within g := ⟨rfl, rfl, by simp⟩

theorem trans {g₁ g₂ g₃ : Grant} (h : g₁.Within g₂) (h' : g₂.Within g₃) : g₁.Within g₃ :=
  ⟨h.objectType.trans h'.objectType, h.object.trans h'.object,
    and_eq_zero_of_subset h.rights h'.rights⟩

end Grant.Within

namespace CapabilityTable

variable {t t' : CapabilityTable} {gs : List Grant}

/-! ## One slot -/

theorem mem_grants {g : Grant} :
    g ∈ t.grants ↔ ∃ i : Fin capabilitySlotCount, ∃ entry : CapabilityEntry,
      (t.slotAt i).entry = some entry ∧ entry.grant = g := by
  unfold grants
  rw [List.mem_filterMap]
  constructor
  · rintro ⟨slot, hslot, hg⟩
    obtain ⟨i, hi, rfl⟩ := Vector.mem_iff_getElem.mp (Vector.mem_toList_iff.mp hslot)
    obtain ⟨entry, hentry, rfl⟩ := Option.map_eq_some_iff.mp hg
    exact ⟨⟨i, hi⟩, entry, hentry, rfl⟩
  · rintro ⟨i, entry, hentry, rfl⟩
    refine ⟨t.slots[i], Vector.mem_toList_iff.mpr (Vector.getElem_mem i.isLt), ?_⟩
    rw [hentry]
    rfl

theorem grants_eq_nil : t.grants = [] ↔ ∀ slot ∈ t.slots, slot.entry = none := by
  unfold grants
  rw [List.filterMap_eq_nil_iff]
  simp only [Vector.mem_toList_iff, Option.map_eq_none_iff]

theorem grants_building (taskId gen : UInt64) : (building taskId gen).grants = [] := by
  rw [grants_eq_nil]
  intro slot hslot
  rw [(Vector.mem_replicate.mp hslot).2]
  rfl

/-- Filling a free slot adds the grant of the new entry. -/
theorem grants_setEntry {i : Fin capabilitySlotCount} (hfree : (t.slotAt i).isFree = true)
    (entry : CapabilityEntry) : (setEntry i entry t).grants.Perm (entry.grant :: t.grants) := by
  have hnone : t.slots[i].entry = none := by
    unfold CapabilitySlot.isFree at hfree
    rw [Bool.and_eq_true, Option.isNone_iff_eq_none] at hfree
    exact hfree.1
  unfold grants setEntry
  rw [Vector.toList_set]
  refine filterMap_set_perm (by simp) ?_ rfl
  show Option.map _ t.slots[i].entry = none
  rw [hnone]
  rfl

/-! ## The changes -/

theorem Closed.grants_sublist (h : Closed t t') : t'.grants.Sublist t.grants := by
  obtain ⟨-, i, -, rfl⟩ := h
  unfold grants
  rw [Vector.toList_set]
  apply filterMap_set_sublist
  rw [removeEntry_entry]
  rfl

/-- A duplicate is an endpoint grant within one that the table holds, with some right. -/
theorem Duplicated.grants_perm {requested : UInt64} (h : Duplicated requested t t') :
    ∃ g g₀, g₀ ∈ t.grants ∧ g.Within g₀ ∧ g.objectType = objectTypeEndpoint ∧ g.rights ≠ 0 ∧
      t'.grants.Perm (g :: t.grants) := by
  obtain ⟨-, source, i, entry, hentry, hfree, htype, hvalid, hsub, rfl⟩ := h
  refine ⟨{ entry.grant with rights := requested }, entry.grant, mem_grants.mpr ⟨source, entry, hentry, rfl⟩, ⟨rfl, rfl, hsub⟩, htype, ?_,
    grants_setEntry hfree _⟩
  rintro rfl
  cases hvalid

theorem Launched.grants_perm (h : Launched t t') : t'.grants.Perm (Grant.submit :: t.grants) := by
  obtain ⟨-, i, hfree, rfl⟩ := h
  exact grants_setEntry hfree _

theorem grants_closed (t : CapabilityTable) : t.closed.grants = [] :=
  grants_eq_nil.mpr fun _ => closed_entry

theorem grants_dead : dead.grants = [] := by decide

theorem Attenuates.of_subset (h : t'.grants ⊆ t.grants) : Attenuates t t' :=
  fun g hg => ⟨g, h hg, .refl g⟩

theorem Change.attenuates (h : Change t t') : Attenuates t t' := by
  cases h with
  | kept => exact .of_subset fun _ hg => hg
  | closed change => exact .of_subset change.grants_sublist.subset
  | released => exact .of_subset (by rw [grants_closed]; exact List.nil_subset _)
  | buried => exact .of_subset (by rw [grants_dead]; exact List.nil_subset _)
  | duplicated change =>
    obtain ⟨g, g₀, hmem, hwithin, -, -, hperm⟩ := change.grants_perm
    intro g' hg'
    rcases List.mem_cons.mp (hperm.mem_iff.mp hg') with rfl | hold
    · exact ⟨g₀, hmem, hwithin⟩
    · exact ⟨g', hold, .refl g'⟩

/-- A property of grants that attenuation keeps is kept by every change. -/
theorem Change.forall_grants {P : Grant → Prop} (h : Change t t') (ht : ∀ g ∈ t.grants, P g)
    (hP : ∀ g g₀, P g₀ → g.Within g₀ → g.rights ≠ 0 → P g) : ∀ g ∈ t'.grants, P g := by
  intro g hg
  cases h with
  | kept => exact ht g hg
  | closed change => exact ht g (change.grants_sublist.subset hg)
  | released => rw [grants_closed] at hg; cases hg
  | buried => rw [grants_dead] at hg; cases hg
  | duplicated change =>
    obtain ⟨g', g₀, hmem, hwithin, -, hne, hperm⟩ := change.grants_perm
    rcases List.mem_cons.mp (hperm.mem_iff.mp hg) with rfl | hold
    · exact hP g g₀ (ht g₀ hmem) hwithin hne
    · exact ht g hold

/-- Without an endpoint nothing can be duplicated, so that grants are only dropped. -/
theorem Change.grants_sublist (h : Change t t')
    (hno : ∀ g ∈ t.grants, g.objectType ≠ objectTypeEndpoint) : t'.grants.Sublist t.grants := by
  cases h with
  | kept => exact .refl _
  | closed change => exact change.grants_sublist
  | released => rw [grants_closed]; exact List.nil_sublist _
  | buried => rw [grants_dead]; exact List.nil_sublist _
  | duplicated change =>
    obtain ⟨g, g₀, hmem, hwithin, htype, -, -⟩ := change.grants_perm
    exact absurd (hwithin.objectType.symm.trans htype) (hno g₀ hmem)

/-! ## Publication -/

/-- `t'` is `t` with a slot filled for each of the grants. -/
inductive Installed : List Grant → CapabilityTable → CapabilityTable → Prop where
  | nil {t : CapabilityTable} : Installed [] t t
  | cons {g : Grant} {rest : List Grant} {t t' : CapabilityTable} {i : Fin capabilitySlotCount}
      (free : (t.slotAt i).isFree = true) (tail : Installed rest (setEntry i (g.entry t) t) t') :
      Installed (g :: rest) t t'

theorem Installed.grants_perm (h : Installed gs t t') :
    t'.grants.Perm (gs ++ t.grants) := by
  induction h with
  | nil => exact .refl _
  | @cons g rest t t' i free tail ih =>
    have hfill := grants_setEntry free (g.entry t)
    exact (ih.trans (hfill.append_left rest)).trans List.perm_middle

/-- A fresh table holds just what publication has put into it. -/
theorem Installed.grants_perm_published {taskId gen : UInt64}
    (h : Installed gs (building taskId gen) t') :
    ({ t' with state := .live } : CapabilityTable).grants.Perm gs := by
  have hperm := h.grants_perm
  rw [grants_building, List.append_nil] at hperm
  exact hperm

theorem Installed.grants_published {g : Grant} {taskId gen : UInt64}
    (h : Installed [g] (building taskId gen) t') :
    ({ t' with state := .live } : CapabilityTable).grants = [g] :=
  List.perm_singleton.mp h.grants_perm_published

theorem Installed.append {gs' : List Grant} {t'' : CapabilityTable} (h : Installed gs t t')
    (h' : Installed gs' t' t'') : Installed (gs ++ gs') t t'' := by
  induction h with
  | nil => exact h'
  | cons free tail ih => exact .cons free (ih h')

theorem Installed.entries {P : CapabilityEntry → Prop} (h : Installed gs t t') (ht : Entries P t)
    (hP : ∀ g ∈ gs, ∀ t₀, P (g.entry t₀)) : Entries P t' := by
  induction h with
  | nil => exact ht
  | @cons g rest t t' i free tail ih =>
    exact ih (ht.setEntry i (hP g List.mem_cons_self t))
      fun g' hg' => hP g' (List.mem_cons_of_mem g hg')

end CapabilityTable

end MakopaVerified.TaskRuntime
