import MakopaVerified.BootContract.Regions
import MakopaVerified.Foundation.Runs
import MakopaVerified.Frames.Allocator

/-!
# What the frame allocator is for

A pool of page frames: those it manages and, among them, those it can hand out. The calls of the
allocator are events of two systems, the allocator itself and the pool, and `Stands` says when the
extents of an allocator stand for a pool.
-/

namespace MakopaVerified.Frames

open Foundation BootContract

/-- Page frames by their numbers. -/
structure FramePool where
  managed : Set Nat
  free : Set Nat
  free_subset : free ⊆ managed

/-- No neighbour of `x` is in the set. -/
def Isolated (S : Set Nat) (x : Nat) : Prop := x + 1 ∉ S ∧ ∀ y, y + 1 = x → y ∉ S

namespace FramePool

/-- A pool with nothing handed out. -/
def full (frames : Set Nat) : FramePool := ⟨frames, frames, subset_rfl⟩

/-- The pool after the frame `x` was handed out. -/
def take (pool : FramePool) (x : Nat) : FramePool :=
  ⟨pool.managed, pool.free \ {x}, fun _ hx => pool.free_subset hx.1⟩

/-- The pool after the managed frame `x` came back. -/
def put (pool : FramePool) (x : Nat) (h : x ∈ pool.managed) : FramePool :=
  ⟨pool.managed, insert x pool.free, Set.insert_subset h pool.free_subset⟩

/-- A frame that comes back needs an extent of its own, and there is no room for one. -/
def NoRoom (pool : FramePool) (x : Nat) : Prop :=
  Isolated pool.free x ∧ (Spans.runStarts pool.free).ncard = maxFrameExtents

open Classical in
/-- Why an address cannot come back, if it cannot. -/
noncomputable def refusal (pool : FramePool) (address : UInt64) : Option FreeError :=
  if address.toNat % 4096 ≠ 0 then some .unaligned
  else if 2 ^ 64 ≤ address.toNat + 4096 then some .addressOverflow
  else if frameNumber address ∉ pool.managed then some .unmanaged
  else if frameNumber address ∈ pool.free then some .duplicate
  else if pool.NoRoom (frameNumber address) then some .capacityExceeded
  else none

end FramePool

/-- A call of the allocator with its result. -/
inductive AllocatorEvent where
  | initialized (regions : List MemoryRegion) (result : Except InitError Unit)
  | allocated (result : Except AllocateError UInt64)
  | freed (address : UInt64) (result : Except FreeError Unit)

/-- The event starts the allocator afresh. -/
def AllocatorEvent.Restarts (e : AllocatorEvent) : Prop := ∃ regions, e = .initialized regions (.ok ())

/-- The call of an event, on the allocator `fa`, returns its result and leaves `fa'`. -/
def FrameAllocator.Does (fa : FrameAllocator) : AllocatorEvent → FrameAllocator → Prop
  | .initialized regions result, fa' => (initializeRegions regions).run fa = (result, fa')
  | .allocated result, fa' => allocateFrame.run fa = (result, fa')
  | .freed address result, fa' => (freeFrame address).run fa = (result, fa')

/-- The allocator from `new` on, under any calls. -/
def allocatorSystem : System FrameAllocator AllocatorEvent where
  init := (· = .new)
  step := FrameAllocator.Does

/-- What the calls mean for the pool. Nothing is said about when an initialisation fails. -/
inductive FramePool.Does : FramePool → AllocatorEvent → FramePool → Prop where
  | initialized {pool : FramePool} {regions : List MemoryRegion} :
      Does pool (.initialized regions (.ok ())) (.full (usableFrames regions))
  | initializeFailed {pool : FramePool} {regions : List MemoryRegion} {e : InitError} :
      Does pool (.initialized regions (.error e)) pool
  | allocated {pool : FramePool} {address : UInt64} :
      address.toNat % 4096 = 0 → IsLeast pool.free (frameNumber address) →
      Does pool (.allocated (.ok address)) (pool.take (frameNumber address))
  | exhausted {pool : FramePool} :
      pool.free = ∅ → Does pool (.allocated (.error .exhausted)) pool
  | freed {pool : FramePool} {address : UInt64} (h : frameNumber address ∈ pool.managed) :
      pool.refusal address = none →
      Does pool (.freed address (.ok ())) (pool.put (frameNumber address) h)
  | refused {pool : FramePool} {address : UInt64} {e : FreeError} :
      pool.refusal address = some e → Does pool (.freed address (.error e)) pool

/-- The pool from the empty one on. -/
def poolSystem : System FramePool AllocatorEvent where
  init := (· = .full ∅)
  step := FramePool.Does

/-! ## Several calls in a row -/

/-- Allocate some frames, one after the other. -/
def FrameAllocator.allocateFrames : Nat → Method FrameAllocator AllocateError (List UInt64)
  | 0 => pure []
  | count + 1 => do
    let frame ← allocateFrame
    let frames ← allocateFrames count
    pure (frame :: frames)

/-- Free some frames, one after the other. -/
def FrameAllocator.freeFrames : List UInt64 → Method FrameAllocator FreeError Unit
  | [] => pure ()
  | frame :: frames => do
    freeFrame frame
    freeFrames frames

/-- The pool hands out some frames, one after the other. -/
inductive FramePool.Hands : FramePool → List UInt64 → FramePool → Prop where
  | nil {pool : FramePool} : Hands pool [] pool
  | cons {pool pool' : FramePool} {address : UInt64} {rest : List UInt64} :
      address.toNat % 4096 = 0 → IsLeast pool.free (frameNumber address) →
      Hands (pool.take (frameNumber address)) rest pool' → Hands pool (address :: rest) pool'

/-- The page frames of an extent. -/
def Extent.span (e : Extent) : Span := pageSpan e.physicalStart e.pageCount

/-- The page frames of the first `len` extents. -/
def frames (extents : Extents) (len : Nat) : Set Nat :=
  Spans.points ((live extents len).map Extent.span)

/-- The first `len` extents are in the array, none of them runs over the end of the address space,
and they are sorted, not empty and not adjacent. -/
structure ExtentsOk (extents : Extents) (len : Nat) : Prop where
  len_le : len ≤ maxFrameExtents
  fits : ∀ e ∈ live extents len, PageRange e.physicalStart e.pageCount
  canonical : Spans.Canonical ((live extents len).map Extent.span)

/-- The runs of usable page frames, in the order of the regions. -/
def usableRuns (regions : List MemoryRegion) : List Span :=
  regions.foldl (fun runs r => if r.kind = memoryUsable then Spans.join runs r.span else runs) []

/-- The entries that the second pass writes to for a region are in the arrays. -/
def FillInBounds (fa : FrameAllocator) (region : MemoryRegion) : Prop :=
  region.kind = memoryUsable →
    (fa.managedLen ≠ 0 ∧
        (extentAt fa.managed (fa.managedLen - 1)).endAddress = some region.physicalStart ∧
        fa.managedLen - 1 < maxFrameExtents) ∨
      (fa.managedLen < maxFrameExtents ∧ fa.freeLen < maxFrameExtents)

/-- The extents of the allocator stand for the pool. -/
structure Stands (fa : FrameAllocator) (pool : FramePool) : Prop where
  managedOk : ExtentsOk fa.managed fa.managedLen
  freeOk : ExtentsOk fa.free fa.freeLen
  managed : frames fa.managed fa.managedLen = pool.managed
  free : frames fa.free fa.freeLen = pool.free

end MakopaVerified.Frames
