import MakopaVerified.TaskRuntime.Types

/-!
# Task-local capability tables

`CapabilityHandleV1`, `CapabilitySlot` and `CapabilityTable` of `crates/task-runtime`. A handle
word is a slot index in its low four bits and the slot's generation above them. Closing a handle
moves its slot to the next generation, or retires the slot at the last one, so that a closed word
never names the slot's next entry.
-/

namespace MakopaVerified.TaskRuntime

open Foundation

/-! ## Handles -/

/-- `CapabilityHandleV1`. -/
structure CapabilityHandle where
  raw : UInt64
  deriving DecidableEq, Repr

/-- `CapabilityHandleV1::from_parts`. -/
def CapabilityHandle.fromParts (slot : Nat) (generation : UInt64) : Option CapabilityHandle :=
  if slot ≥ capabilitySlotCount ∨ generation = 0 ∨ generation > capabilityGenerationMax then none
  else some ⟨(generation <<< capabilitySlotBits) ||| UInt64.ofNat slot⟩

/-- The low four bits of a handle word are a slot index. -/
def CapabilityHandle.slotIndex (raw : UInt64) : Fin capabilitySlotCount :=
  ⟨(raw &&& 0xf).toNat, by
    rw [UInt64.toNat_and]
    exact Nat.lt_of_le_of_lt Nat.and_le_right (by decide)⟩

/-- `CapabilityHandleV1::decode`. -/
def CapabilityHandle.decode (raw : UInt64) : Option (Fin capabilitySlotCount × UInt64) :=
  if raw >>> capabilitySlotBits = 0 then none
  else some (slotIndex raw, raw >>> capabilitySlotBits)

/-! ## Tables -/

inductive CapabilityTableState where
  | building | live | closing | dead
  deriving DecidableEq, Repr

structure ObjectReference where
  id : UInt64
  generation : UInt64
  deriving DecidableEq, Repr

structure CapabilityEntry where
  taskId : UInt64
  taskGeneration : UInt64
  objectType : UInt32
  rights : UInt64
  object : ObjectReference
  deriving DecidableEq, Repr

structure CapabilitySlot where
  generation : UInt64
  retired : Bool
  entry : Option CapabilityEntry
  deriving DecidableEq, Repr

/-- `CapabilitySlot::EMPTY`. -/
def CapabilitySlot.empty : CapabilitySlot := { generation := 1, retired := false, entry := none }

/-- A slot that can take a new entry. -/
def CapabilitySlot.isFree (slot : CapabilitySlot) : Bool := slot.entry.isNone && !slot.retired

/-- `CapabilityTable::remove_entry`. -/
def CapabilitySlot.removeEntry (slot : CapabilitySlot) : CapabilitySlot :=
  if slot.generation = capabilityGenerationMax then { slot with entry := none, retired := true }
  else { slot with entry := none, generation := slot.generation + 1 }

structure CapabilityTable where
  taskId : UInt64
  taskGeneration : UInt64
  state : CapabilityTableState
  slots : Vector CapabilitySlot capabilitySlotCount
  deriving DecidableEq, Repr

/-- `valid_rights`: the rights an entry of the given object type may carry. -/
def validRights (objectType : UInt32) (rights : UInt64) : Bool :=
  if rights = 0 ∨ rights &&& ~~~capabilityRightsV1 ≠ 0 then false
  else if objectType = objectTypeEndpoint then
    rights &&& ~~~(capabilityRightSend ||| capabilityRightReceive ||| capabilityRightDuplicate) = 0
  else if objectType = objectTypeTaskControl then rights = capabilityRightStart
  else if objectType = objectTypeApprovalBroker then
    rights = capabilityRightSubmitApproval ∨ rights = capabilityRightDecideApproval
  else if objectType = objectTypeTestEffect then rights = capabilityRightCommitEffect
  else if objectType = objectTypeEffectJournal then rights = capabilityRightReadEffectJournal
  else false

namespace CapabilityTable

/-- `CapabilityTable::building`. -/
def building (taskId taskGeneration : UInt64) : CapabilityTable where
  taskId := taskId
  taskGeneration := taskGeneration
  state := .building
  slots := Vector.replicate capabilitySlotCount CapabilitySlot.empty

/-- `CapabilityTable::dead`. -/
def dead : CapabilityTable where
  taskId := 0
  taskGeneration := 0
  state := .dead
  slots := Vector.replicate capabilitySlotCount CapabilitySlot.empty

/-- `CapabilityTable::snapshot().live_slots`. -/
def liveSlots (t : CapabilityTable) : Nat := t.slots.countP (·.entry.isSome)

/-- `CapabilityTable::available_slots`. -/
def availableSlots (t : CapabilityTable) : Nat := t.slots.countP (·.isFree)

/-- `slots[index]`, for an index in range. -/
abbrev slotAt (t : CapabilityTable) (i : Fin capabilitySlotCount) : CapabilitySlot := t.slots[i]

/-- Write an entry into a slot. -/
def setEntry (i : Fin capabilitySlotCount) (entry : CapabilityEntry) (t : CapabilityTable) :
    CapabilityTable :=
  { t with slots := t.slots.set i { t.slots[i] with entry := some entry } }

/-- `CapabilityTable::allocate`: the first free slot takes the entry. -/
def allocate (entry : CapabilityEntry) : Method CapabilityTable TrapStatus UInt64 := do
  let t ← Method.self
  match t.slots.findFinIdx? (·.isFree) with
  | none =>
    if t.slots.all (·.entry.isSome) then Method.fail .handleTableFull
    else Method.fail .generationExhausted
  | some i =>
    match CapabilityHandle.fromParts i t.slots[i].generation with
    | none => Method.fail .generationExhausted
    | some handle => do
      Method.update (setEntry i entry)
      pure handle.raw

/-- `CapabilityTable::install_object_building`. -/
def installObjectBuilding (objectType : UInt32) (object : ObjectReference) (rights : UInt64) :
    Method CapabilityTable RuntimeError UInt64 := do
  let t ← Method.self
  if t.state ≠ .building ∨ ¬ validRights objectType rights ∨ t.taskId = 0 ∨ t.taskGeneration = 0
      ∨ object.id = 0 ∨ object.generation = 0 then
    Method.fail .capabilityInvariant
  else
    Method.onPart id (fun t _ => t) (fun _ => .capabilityInvariant)
      (allocate { taskId := t.taskId, taskGeneration := t.taskGeneration, objectType, rights,
                  object })

/-- `CapabilityTable::install_building`: an entry for the fixed endpoint. -/
def installBuilding (rights : UInt64) : Method CapabilityTable RuntimeError UInt64 :=
  installObjectBuilding objectTypeEndpoint { id := endpointId, generation := endpointGeneration }
    rights

/-- `CapabilityTable::publish`. -/
def publish : Method CapabilityTable RuntimeError Unit := do
  let t ← Method.self
  if t.state ≠ .building then Method.fail .capabilityInvariant
  else Method.update ({ · with state := .live })

/-- `CapabilityTable::rollback_install`. -/
def rollbackInstall (raw : UInt64) (t : CapabilityTable) : CapabilityTable :=
  match CapabilityHandle.decode raw with
  | none => t
  | some (i, generation) =>
    if t.slots[i].generation = generation then
      { t with slots := t.slots.set i { t.slots[i] with entry := none } }
    else t

/-- `CapabilityTable::resolve_typed`. -/
def resolveTyped (t : CapabilityTable) (taskId taskGeneration raw : UInt64) (objectType : UInt32)
    (requiredRight : UInt64) : Except TrapStatus CapabilityEntry :=
  if t.state ≠ .live ∨ t.taskId ≠ taskId ∨ t.taskGeneration ≠ taskGeneration then
    .error .invalidHandle
  else
    match CapabilityHandle.decode raw with
    | none => .error .invalidHandle
    | some (i, generation) =>
      if t.slots[i].retired ∨ t.slots[i].generation ≠ generation then .error .invalidHandle
      else
        match t.slots[i].entry with
        | none => .error .invalidHandle
        | some entry =>
          if entry.taskId ≠ taskId ∨ entry.taskGeneration ≠ taskGeneration then
            .error .invalidHandle
          else if entry.objectType ≠ objectType then .error .wrongObject
          else if entry.rights &&& requiredRight = 0 then .error .rightsDenied
          else .ok entry

/-- `CapabilityTable::resolve`. -/
def resolve (t : CapabilityTable) (taskId taskGeneration raw requiredRight : UInt64) :
    Except TrapStatus CapabilityEntry :=
  t.resolveTyped taskId taskGeneration raw objectTypeEndpoint requiredRight

/-- `CapabilityTable::duplicate`. -/
def duplicate (taskId taskGeneration source requestedRights : UInt64) :
    Method CapabilityTable TrapStatus UInt64 := do
  let entry ← Method.query fun t =>
    t.resolveTyped taskId taskGeneration source objectTypeEndpoint capabilityRightDuplicate
  if ¬ validRights objectTypeEndpoint requestedRights ∨ requestedRights &&& ~~~entry.rights ≠ 0 then
    Method.fail .invalidRights
  else
    allocate { entry with rights := requestedRights }

/-- `CapabilityTable::close`. -/
def close (taskId taskGeneration raw : UInt64) : Method CapabilityTable TrapStatus Unit := do
  let t ← Method.self
  if t.state ≠ .live ∨ t.taskId ≠ taskId ∨ t.taskGeneration ≠ taskGeneration then
    Method.fail .invalidHandle
  else
    match CapabilityHandle.decode raw with
    | none => Method.fail .invalidHandle
    | some (i, generation) =>
      if t.slots[i].retired ∨ t.slots[i].generation ≠ generation ∨ t.slots[i].entry = none then
        Method.fail .invalidHandle
      else
        Method.update fun t => { t with slots := t.slots.set i t.slots[i].removeEntry }

/-- `CapabilityTable::mark_closing`. -/
def markClosing : Method CapabilityTable RuntimeError Unit := do
  let t ← Method.self
  if t.state ≠ .live then Method.fail .wrongState
  else Method.update ({ · with state := .closing })

/-- `CapabilityTable::close_all`. -/
def closeAll : Method CapabilityTable RuntimeError Unit := do
  let t ← Method.self
  if t.state ≠ .closing then Method.fail .wrongState
  else do
    Method.update fun t =>
      { t with slots := t.slots.map fun s => if s.entry.isSome then s.removeEntry else s }
    let t ← Method.self
    if t.slots.any (·.entry.isSome) then Method.fail .capabilityInvariant
    else pure ()

/-- `CapabilityTable::begin_closing`. -/
def beginClosing : Method CapabilityTable RuntimeError Unit := do
  markClosing
  closeAll

/-- `CapabilityTable::finish_dead`. -/
def finishDead : Method CapabilityTable RuntimeError Unit := do
  let t ← Method.self
  if t.state ≠ .closing ∨ t.slots.any (·.entry.isSome) then Method.fail .wrongState
  else Method.update fun _ => dead

/-- The checks of `CapabilityTable::validate` on one slot of a table that is not dead. -/
def slotValid (t : CapabilityTable) (slot : CapabilitySlot) : Bool :=
  slot.generation ≠ 0 ∧ slot.generation ≤ capabilityGenerationMax ∧
  ¬ (slot.retired ∧ slot.entry.isSome) ∧
  slot.entry.all fun entry =>
    entry.taskId = t.taskId ∧ entry.taskGeneration = t.taskGeneration ∧ entry.objectType ≠ 0 ∧
    validRights entry.objectType entry.rights ∧ entry.object.id ≠ 0 ∧ entry.object.generation ≠ 0

/-- `CapabilityTable::validate`. -/
def validate (t : CapabilityTable) : Except RuntimeError Unit :=
  if t.state = .dead then
    if t.taskId ≠ 0 ∨ t.taskGeneration ≠ 0
        ∨ t.slots ≠ Vector.replicate capabilitySlotCount CapabilitySlot.empty then
      .error .capabilityInvariant
    else .ok ()
  else if t.taskId = 0 ∨ t.taskGeneration = 0 then .error .capabilityInvariant
  else if t.state = .closing ∧ t.slots.any (·.entry.isSome) then .error .capabilityInvariant
  else if t.slots.all t.slotValid then .ok ()
  else .error .capabilityInvariant

end CapabilityTable

end MakopaVerified.TaskRuntime
