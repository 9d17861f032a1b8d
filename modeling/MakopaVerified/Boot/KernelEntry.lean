import MakopaVerified.BootContract.Handoff
import MakopaVerified.Frames.Pool

/-!
# `kernel_entry`

`kernel/src/main.rs` up to the point where the kernel leaves the loader behind: it reads the handoff
and the regions from physical memory, validates them, fills the frame allocator and tries it out
with two frames. Each early exit writes one line to the serial port; the lines are the errors here.
-/

namespace MakopaVerified.Boot

open Foundation BootContract Frames

/-- The records that physical memory has at an address, as the kernel reads them. -/
structure BootMemory where
  handoffAt : UInt64 → BootHandoff
  regionAt : UInt64 → MemoryRegion

/-- `slice::from_raw_parts(address, count)`. -/
def BootMemory.regionsAt (memory : BootMemory) (address : UInt64) (count : Nat) :
    List MemoryRegion :=
  (List.range count).map fun index => memory.regionAt (address + UInt64.ofNat (index * regionSize))

inductive KernelBootError where
  | nullHandoff
  | invalidHandoff
  | frameAllocatorInit
  | frameAllocation
  | frameRecycle
  | frameReuseMismatch
  | frameProbeRestore
  deriving DecidableEq, Repr

/-- `let Ok(..) = call else { report }`. -/
def orReport {ε α : Type} (report : KernelBootError) (call : Method FrameAllocator ε α) :
    Method FrameAllocator KernelBootError α :=
  Method.onPart id (fun fa _ => fa) (fun _ => report) call

/-- The allocator is tried out with two frames. -/
def probeFrames : Method FrameAllocator KernelBootError Unit := do
  let frameA ← orReport .frameAllocation FrameAllocator.allocateFrame
  let frameB ← orReport .frameAllocation FrameAllocator.allocateFrame
  if frameB = frameA then Method.fail .frameRecycle
  else do
    orReport .frameRecycle (FrameAllocator.freeFrame frameA)
    let reused ← orReport .frameRecycle FrameAllocator.allocateFrame
    if reused ≠ frameA then Method.fail .frameReuseMismatch
    else do
      orReport .frameProbeRestore (FrameAllocator.freeFrame frameB)
      orReport .frameProbeRestore (FrameAllocator.freeFrame reused)

/-- `kernel_entry`, with the handoff at `handoffAddress`: whether there is a framebuffer. -/
def kernelEntry (memory : BootMemory) (handoffAddress : UInt64) :
    Method FrameAllocator KernelBootError Bool :=
  if handoffAddress = 0 ∨ handoffAddress % recordAlignment ≠ 0 then Method.fail .nullHandoff
  else
    let handoff := memory.handoffAt handoffAddress
    match validateHandoffHeader handoff with
    | .error _ => Method.fail .invalidHandoff
    | .ok regionCount =>
      let regions := memory.regionsAt handoff.memoryRegionsAddress regionCount
      match validateHandoff handoff handoffAddress handoff.memoryRegionsAddress regions with
      | .error _ => Method.fail .invalidHandoff
      | .ok () => do
        orReport .frameAllocatorInit (FrameAllocator.initializeRegions regions)
        probeFrames
        pure handoff.hasFramebuffer

/-! ## What the checkers of regions are to agree on -/

/-- A region list that an allocator can manage. -/
structure Manageable (regions : List MemoryRegion) : Prop extends RegionsOk regions where
  runs : (Spans.runStarts (usableFrames regions)).ncard ≤ maxFrameExtents

/-- `initialize` on `fa` has left exactly the runs of usable pages in both arrays: as many as its
first pass has counted, and without a write beyond the arrays in its second. -/
structure InitializedTo (regions : List MemoryRegion) (fa fa' : FrameAllocator) : Prop where
  same : live fa'.free fa'.freeLen = live fa'.managed fa'.managedLen
  canonical : Spans.Canonical ((live fa'.managed fa'.managedLen).map Extent.span)
  points : Spans.points ((live fa'.managed fa'.managedLen).map Extent.span) = usableFrames regions
  count : validateAndCountExtents regions = .ok fa'.managedLen
  freeLen : fa'.freeLen = fa'.managedLen
  filled : fa' = regions.foldl FrameAllocator.fill { fa with managedLen := 0, freeLen := 0 }
  inBounds : ∀ done region rest, regions = done ++ region :: rest →
    FillInBounds (done.foldl FrameAllocator.fill { fa with managedLen := 0, freeLen := 0 }) region

end MakopaVerified.Boot
