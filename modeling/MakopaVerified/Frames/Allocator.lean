import MakopaVerified.BootContract.Memory
import MakopaVerified.Foundation.Method
import MakopaVerified.Foundation.Prefixes

/-!
# The frame allocator

`crates/frame-allocator`: two arrays of extents with their lengths, one for the frames that are
managed and one for those that are free. The loops over the arrays are recursions on the number of
passes that are left. An index is always in bounds when the lengths are (`ExtentsOk`); the reads and
writes here fall back to an empty extent where the source would stop.
-/

namespace MakopaVerified.Frames

open Foundation BootContract

def maxFrameExtents : Nat := maxMemoryRegions

structure Extent where
  physicalStart : UInt64
  pageCount : UInt64
  deriving DecidableEq, Repr

namespace Extent

/-- `Extent::EMPTY`. -/
def empty : Extent := ⟨0, 0⟩

/-- `Extent::end`: the address after the last byte. -/
def endAddress (e : Extent) : Option UInt64 :=
  (checkedMul e.pageCount pageSize).bind (checkedAdd e.physicalStart)

/-- `Extent::contains_frame`. -/
def containsFrame (e : Extent) (physicalStart frameEnd : UInt64) : Bool :=
  e.endAddress.any fun extentEnd => e.physicalStart ≤ physicalStart && frameEnd ≤ extentEnd

end Extent

inductive InitError where
  | zeroPages
  | unaligned
  | rangeOverflow
  | outOfOrder
  | overlap
  | unknownKind
  | attributes
  | capacityExceeded
  deriving DecidableEq, Repr

inductive AllocateError where
  | exhausted
  | invariantOverflow
  deriving DecidableEq, Repr

inductive FreeError where
  | unaligned
  | addressOverflow
  | unmanaged
  | duplicate
  | capacityExceeded
  deriving DecidableEq, Repr

/-- An array of extents. -/
abbrev Extents := Vector Extent maxFrameExtents

/-- `extents[index]`. -/
def extentAt (extents : Extents) (index : Nat) : Extent := extents[index]?.getD Extent.empty

/-- An assignment to fields of `extents[index]`. -/
def modifyExtent (extents : Extents) (index : Nat) (f : Extent → Extent) : Extents :=
  extents.setIfInBounds index (f (extentAt extents index))

structure FrameAllocator where
  managed : Extents
  managedLen : Nat
  free : Extents
  freeLen : Nat
  deriving DecidableEq, Repr

/-! ## `initialize` -/

/-- The local variables of `validate_and_count_extents`. -/
structure RegionScan where
  previousStart : Option UInt64
  previousEnd : Option UInt64
  previousUsableEnd : Option UInt64
  extentCount : Nat

/-- The end address of a region. -/
def regionEnd (region : MemoryRegion) : Option UInt64 :=
  (checkedMul region.pageCount pageSize).bind (checkedAdd region.physicalStart)

/-- The end of the loop body of `validate_and_count_extents`, for a region that ends at `stop`. The
count is far below the end of its type when it meets the limit. -/
def RegionScan.count (s : RegionScan) (region : MemoryRegion) (stop : UInt64) :
    Except InitError RegionScan :=
  let next : RegionScan :=
    { previousStart := some region.physicalStart
      previousEnd := some stop
      previousUsableEnd := if region.kind = memoryUsable then some stop else none
      extentCount := s.extentCount }
  if region.kind = memoryUsable ∧ s.previousUsableEnd ≠ some region.physicalStart then
    if s.extentCount + 1 > maxFrameExtents then .error .capacityExceeded
    else .ok { next with extentCount := s.extentCount + 1 }
  else .ok next

/-- The loop body of `validate_and_count_extents`. -/
def RegionScan.step (s : RegionScan) (region : MemoryRegion) : Except InitError RegionScan :=
  if region.pageCount = 0 then .error .zeroPages
  else if region.physicalStart % pageSize ≠ 0 then .error .unaligned
  else if ¬ isKnownMemoryKind region.kind then .error .unknownKind
  else if region.attributes ≠ 0 then .error .attributes
  else
    match regionEnd region with
    | none => .error .rangeOverflow
    | some stop =>
      if s.previousStart.any fun start => region.physicalStart < start then .error .outOfOrder
      else if s.previousEnd.any fun priorEnd => region.physicalStart < priorEnd then
        .error .overlap
      else s.count region stop

/-- The loop of `validate_and_count_extents`. -/
def RegionScan.run (s : RegionScan) : List MemoryRegion → Except InitError RegionScan
  | [] => .ok s
  | region :: regions =>
    match s.step region with
    | .error e => .error e
    | .ok s' => s'.run regions

/-- `validate_and_count_extents`. -/
def validateAndCountExtents (regions : List MemoryRegion) : Except InitError Nat :=
  (RegionScan.run ⟨none, none, none, 0⟩ regions).map (·.extentCount)

namespace FrameAllocator

/-- `FrameAllocator::new`. -/
def new : FrameAllocator where
  managed := Vector.replicate maxFrameExtents Extent.empty
  managedLen := 0
  free := Vector.replicate maxFrameExtents Extent.empty
  freeLen := 0

/-- The loop body of `FrameAllocator::initialize`. -/
def fill (fa : FrameAllocator) (region : MemoryRegion) : FrameAllocator :=
  if region.kind ≠ memoryUsable then fa
  else if fa.managedLen ≠ 0
      ∧ (extentAt fa.managed (fa.managedLen - 1)).endAddress = some region.physicalStart then
    let index := fa.managedLen - 1
    { fa with
      managed := modifyExtent fa.managed index fun e =>
        { e with pageCount := e.pageCount + region.pageCount }
      free := modifyExtent fa.free index fun e =>
        { e with pageCount := e.pageCount + region.pageCount } }
  else
    let extent : Extent := ⟨region.physicalStart, region.pageCount⟩
    { managed := fa.managed.setIfInBounds fa.managedLen extent
      managedLen := fa.managedLen + 1
      free := fa.free.setIfInBounds fa.freeLen extent
      freeLen := fa.freeLen + 1 }

/-- `FrameAllocator::initialize`. Its two assertions on the count, and that no write of its loop is
out of bounds, are part of `fill_exact`. -/
def initializeRegions (regions : List MemoryRegion) : Method FrameAllocator InitError Unit := do
  match validateAndCountExtents regions with
  | .error e => Method.fail e
  | .ok _ => Method.update fun fa => regions.foldl fill { fa with managedLen := 0, freeLen := 0 }

/-! ## `allocate_frame` -/

/-- `FrameAllocator::remove_free_extent`. -/
def removeFreeExtent (index : Nat) (fa : FrameAllocator) : FrameAllocator :=
  { fa with
    free := shiftDown fa.free (index + 1) (fa.freeLen - (index + 1))
    freeLen := fa.freeLen - 1 }

/-- `FrameAllocator::allocate_frame`. -/
def allocateFrame : Method FrameAllocator AllocateError UInt64 := do
  let fa ← Method.self
  if fa.freeLen = 0 then Method.fail .exhausted
  else
    let frame := (extentAt fa.free 0).physicalStart
    if (extentAt fa.free 0).pageCount = 1 then do
      Method.update (removeFreeExtent 0)
      pure frame
    else
      match checkedAdd frame pageSize with
      | none => Method.fail .invariantOverflow
      | some next => do
        Method.update fun fa =>
          { fa with free := modifyExtent fa.free 0 fun e => ⟨next, e.pageCount - 1⟩ }
        pure frame

/-! ## `free_frame` -/

/-- The `while` loop of `FrameAllocator::free_frame`, with the passes that are left. -/
def scanFree (fa : FrameAllocator) (physicalStart frameEnd : UInt64) (insertion : Nat) :
    Nat → Except FreeError Nat
  | 0 => .ok insertion
  | passes + 1 =>
    if (extentAt fa.free insertion).physicalStart < physicalStart then
      if (extentAt fa.free insertion).containsFrame physicalStart frameEnd then .error .duplicate
      else fa.scanFree physicalStart frameEnd (insertion + 1) passes
    else .ok insertion

/-- The loop and the check after it: where the frame goes, if it is not free already. -/
def findInsertion (fa : FrameAllocator) (physicalStart frameEnd : UInt64) :
    Except FreeError Nat := do
  let insertion ← fa.scanFree physicalStart frameEnd 0 fa.freeLen
  if insertion < fa.freeLen
      ∧ (extentAt fa.free insertion).containsFrame physicalStart frameEnd then .error .duplicate
  else .ok insertion

/-- `joins_left`. -/
def joinsLeft (fa : FrameAllocator) (insertion : Nat) (physicalStart : UInt64) :
    Except FreeError Bool :=
  if insertion = 0 then .ok false
  else
    match (extentAt fa.free (insertion - 1)).endAddress with
    | none => .error .addressOverflow
    | some leftEnd => .ok (leftEnd = physicalStart)

/-- `joins_right`. -/
def joinsRight (fa : FrameAllocator) (insertion : Nat) (frameEnd : UInt64) : Bool :=
  insertion < fa.freeLen ∧ (extentAt fa.free insertion).physicalStart = frameEnd

/-- The match on `(joins_left, joins_right)` in `FrameAllocator::free_frame`. -/
def giveBack (fa : FrameAllocator) (insertion : Nat) (physicalStart : UInt64) :
    Bool → Bool → Except FreeError FrameAllocator
  | true, true =>
    match (checkedAdd (extentAt fa.free (insertion - 1)).pageCount 1).bind
        (checkedAdd · (extentAt fa.free insertion).pageCount) with
    | none => .error .addressOverflow
    | some mergedPages =>
      .ok (removeFreeExtent insertion
        { fa with
          free := modifyExtent fa.free (insertion - 1) fun e =>
            { e with pageCount := mergedPages } })
  | true, false =>
    match checkedAdd (extentAt fa.free (insertion - 1)).pageCount 1 with
    | none => .error .addressOverflow
    | some mergedPages =>
      .ok { fa with
        free := modifyExtent fa.free (insertion - 1) fun e => { e with pageCount := mergedPages } }
  | false, true =>
    match checkedAdd (extentAt fa.free insertion).pageCount 1 with
    | none => .error .addressOverflow
    | some mergedPages =>
      .ok { fa with free := modifyExtent fa.free insertion fun _ => ⟨physicalStart, mergedPages⟩ }
  | false, false =>
    if fa.freeLen = maxFrameExtents then .error .capacityExceeded
    else
      .ok { fa with
        free := (shiftUp fa.free insertion (fa.freeLen - insertion)).setIfInBounds insertion
          ⟨physicalStart, 1⟩
        freeLen := fa.freeLen + 1 }

/-- `FrameAllocator::free_frame` after the check that the frame is managed. -/
def freeManaged (fa : FrameAllocator) (physicalStart frameEnd : UInt64) :
    Except FreeError FrameAllocator := do
  let insertion ← fa.findInsertion physicalStart frameEnd
  let left ← fa.joinsLeft insertion physicalStart
  fa.giveBack insertion physicalStart left (fa.joinsRight insertion frameEnd)

/-- `FrameAllocator::free_frame`. Each arm of its match checks before it writes. -/
def freeFrame (physicalStart : UInt64) : Method FrameAllocator FreeError Unit := do
  if physicalStart % pageSize ≠ 0 then Method.fail .unaligned
  else
    match checkedAdd physicalStart pageSize with
    | none => Method.fail .addressOverflow
    | some frameEnd => do
      let fa ← Method.self
      if ¬ (live fa.managed fa.managedLen).any (·.containsFrame physicalStart frameEnd) then
        Method.fail .unmanaged
      else
        match fa.freeManaged physicalStart frameEnd with
        | .error e => Method.fail e
        | .ok fa' => Method.update fun _ => fa'

/-- `FrameAllocator::managed_extent_count`. -/
def managedExtentCount (fa : FrameAllocator) : Nat := fa.managedLen

/-- `FrameAllocator::free_extent_count`. -/
def freeExtentCount (fa : FrameAllocator) : Nat := fa.freeLen

end FrameAllocator

end MakopaVerified.Frames
