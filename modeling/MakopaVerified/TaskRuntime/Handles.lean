import MakopaVerified.Foundation.Names
import MakopaVerified.TaskRuntime.Capability

/-!
# The life of a handle word

One capability table from its building state on: every sequence of installs, publication,
duplicates, closes and the final closing, with whatever arguments, the failing calls included.
`rollback_install` is not among the calls: it belongs to a publication that fails, whose tables are
replaced by dead ones. A word stands for what its slot holds in the generation of the word, and a
table is read as a name space of such words.
-/

namespace MakopaVerified.TaskRuntime

open Foundation

/-- A call on a table with its arguments and its result. -/
inductive TableEvent where
  | install (objectType : UInt32) (object : ObjectReference) (rights : UInt64)
      (result : Except RuntimeError UInt64)
  | publish (result : Except RuntimeError Unit)
  | duplicate (taskId taskGeneration source requested : UInt64) (result : Except TrapStatus UInt64)
  | close (taskId taskGeneration raw : UInt64) (result : Except TrapStatus Unit)
  | markClosing (result : Except RuntimeError Unit)
  | closeAll (result : Except RuntimeError Unit)
  | finishDead (result : Except RuntimeError Unit)

namespace TableEvent

/-- The call takes the table `t` to `t'`. -/
def Does (t : CapabilityTable) (e : TableEvent) (t' : CapabilityTable) : Prop :=
  match e with
  | install objectType object rights result =>
    (CapabilityTable.installObjectBuilding objectType object rights).run t = (result, t')
  | publish result => CapabilityTable.publish.run t = (result, t')
  | duplicate taskId taskGeneration source requested result =>
    (CapabilityTable.duplicate taskId taskGeneration source requested).run t = (result, t')
  | close taskId taskGeneration raw result =>
    (CapabilityTable.close taskId taskGeneration raw).run t = (result, t')
  | markClosing result => CapabilityTable.markClosing.run t = (result, t')
  | closeAll result => CapabilityTable.closeAll.run t = (result, t')
  | finishDead result => CapabilityTable.finishDead.run t = (result, t')

/-- What the call is for the words of the table. -/
def name : TableEvent → NameEvent UInt64
  | install _ _ _ (.ok raw) | duplicate _ _ _ _ (.ok raw) => .issue raw
  | close _ _ raw (.ok ()) => .close raw
  | markClosing (.ok ()) => .shut
  | _ => .other

/-- The word that the call issues. -/
def issued (e : TableEvent) : Option UInt64 := e.name.issues

/-- The word that the call closes. -/
def closed (e : TableEvent) : Option UInt64 := e.name.closes

/-- The call is a `close` or a `duplicate`. -/
def selects : TableEvent → Bool
  | close .. | duplicate .. => true
  | _ => false

end TableEvent

/-- All lives of the table of one task. -/
def tableSystem (taskId taskGeneration : UInt64) : System CapabilityTable TableEvent where
  init t := t = CapabilityTable.building taskId taskGeneration
  step := TableEvent.Does

/-- The word resolves to the entry, for some claimed owner, object type and right. -/
def CapabilityTable.Names (t : CapabilityTable) (raw : UInt64) (entry : CapabilityEntry) : Prop :=
  ∃ taskId taskGeneration objectType right,
    t.resolveTyped taskId taskGeneration raw objectType right = .ok entry

/-! ## Words and slots -/

namespace CapabilitySlot

/-- What the slot holds for a word of the given generation. -/
def lookup (slot : CapabilitySlot) (generation : UInt64) : Option CapabilityEntry :=
  if slot.retired = true ∨ slot.generation ≠ generation then none else slot.entry

/-- The slot has issued a word of the given generation. -/
def Used (slot : CapabilitySlot) (generation : UInt64) : Prop :=
  generation < slot.generation ∨
    generation = slot.generation ∧ (slot.entry ≠ none ∨ slot.retired = true)

end CapabilitySlot

namespace CapabilityTable

/-- What a word stands for. -/
def lookup (t : CapabilityTable) (raw : UInt64) : Option CapabilityEntry :=
  (CapabilityHandle.decode raw).bind fun (i, generation) => (t.slotAt i).lookup generation

/-- The table has issued the word. -/
def Issued (t : CapabilityTable) (raw : UInt64) : Prop :=
  ∃ i generation, CapabilityHandle.decode raw = some (i, generation) ∧
    (t.slotAt i).Used generation

theorem issued_of_lookup {t : CapabilityTable} {raw : UInt64} (h : t.lookup raw ≠ none) :
    t.Issued raw := by
  unfold lookup at h
  cases hd : CapabilityHandle.decode raw with
  | none =>
    rw [hd] at h
    exact absurd rfl h
  | some p =>
    obtain ⟨i, g⟩ := p
    rw [hd] at h
    have h : t.slots[i].lookup g ≠ none := h
    unfold CapabilitySlot.lookup at h
    by_cases hslot : t.slots[i].retired = true ∨ t.slots[i].generation ≠ g
    · rw [if_pos hslot] at h
      exact absurd rfl h
    · rw [if_neg hslot] at h
      rw [not_or, not_not] at hslot
      exact ⟨i, g, hd, .inr ⟨hslot.2.symm, .inl h⟩⟩

/-- The words of a table as a name space. -/
def nameSpace (t : CapabilityTable) : NameSpace UInt64 CapabilityEntry where
  issued := t.Issued
  holds := t.lookup
  shut := False
  holds_issued _ := issued_of_lookup
  shut_empty h := h.elim

/-- The name space `s` says what the words of `t` stand for. -/
structure Stands (t : CapabilityTable) (s : NameSpace UInt64 CapabilityEntry) : Prop where
  slots_open : t.state = .building ∨ t.state = .live → s = t.nameSpace
  slots_shut : t.state = .closing ∨ t.state = .dead → s.shut

end CapabilityTable

end MakopaVerified.TaskRuntime
