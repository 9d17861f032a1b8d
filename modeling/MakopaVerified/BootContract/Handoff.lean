import MakopaVerified.BootContract.Regions
import MakopaVerified.Foundation.Checks

/-!
# The boot handoff and its validation

The records of `crates/boot-contract` that the loader hands to the kernel, and
`crates/boot-contract/src/validate.rs`. A slice of regions is its address and the list of its
entries. The sizes and alignments of the records are those that the layout tests of the crate fix.
-/

namespace MakopaVerified.BootContract

open Foundation

/-- `*b"MAKOPA\0\0"`. -/
def handoffMagic : List UInt8 := [0x4d, 0x41, 0x4b, 0x4f, 0x50, 0x41, 0, 0]

def abiMajor : UInt16 := 1
def abiMinor : UInt16 := 0
def framebufferPresent : UInt32 := 1

def pixelFormatRgb : UInt32 := 1
def pixelFormatBgr : UInt32 := 2

/-- `size_of::<BootHandoffHeaderV1>()`. -/
def headerSize : Nat := 32

/-- `size_of::<BootHandoffV1>()`. -/
def handoffSize : Nat := 88

/-- `size_of::<MemoryRegionV1>()`. -/
def regionSize : Nat := 24

/-- `align_of` of both records with an address. -/
def recordAlignment : UInt64 := 8

/-- `BootHandoffHeaderV1`. -/
structure BootHandoffHeader where
  magic : List UInt8
  abiMajor : UInt16
  abiMinor : UInt16
  headerSize : UInt32
  handoffSize : UInt32
  flags : UInt32
  reserved : UInt64
  deriving DecidableEq, Repr

/-- `BootHandoffHeaderV1::new`. -/
def BootHandoffHeader.new : BootHandoffHeader where
  magic := handoffMagic
  abiMajor := BootContract.abiMajor
  abiMinor := BootContract.abiMinor
  headerSize := UInt32.ofNat BootContract.headerSize
  handoffSize := UInt32.ofNat BootContract.handoffSize
  flags := 0
  reserved := 0

/-- `FramebufferV1`. -/
structure Framebuffer where
  physicalStart : UInt64
  byteLength : UInt64
  width : UInt32
  height : UInt32
  stridePixels : UInt32
  pixelFormat : UInt32
  reserved : UInt64
  deriving DecidableEq, Repr

/-- `FramebufferV1::default`. -/
def Framebuffer.default : Framebuffer := ⟨0, 0, 0, 0, 0, 0, 0⟩

/-- `FramebufferV1::is_zero`. -/
def Framebuffer.isZero (f : Framebuffer) : Bool :=
  f.physicalStart = 0 ∧ f.byteLength = 0 ∧ f.width = 0 ∧ f.height = 0 ∧ f.stridePixels = 0 ∧
    f.pixelFormat = 0 ∧ f.reserved = 0

/-- `BootHandoffV1`. -/
structure BootHandoff where
  header : BootHandoffHeader
  memoryRegionsAddress : UInt64
  memoryRegionCount : UInt32
  memoryRegionEntrySize : UInt32
  framebuffer : Framebuffer
  deriving DecidableEq, Repr

inductive ValidationError where
  | magic
  | abiMajor
  | abiMinor
  | headerSize
  | handoffSize
  | flags
  | reserved
  | handoffAddress
  | regionAddress
  | regionCount
  | regionEntrySize
  | regionSlice
  | regionZeroPages
  | regionAlignment
  | regionOverflow
  | regionOrder
  | regionOverlap
  | regionKind
  | regionAttributes
  | handoffInUsableMemory
  | regionArrayInUsableMemory
  | framebufferFlag
  | framebufferFields
  | framebufferPixelFormat
  | framebufferStride
  | framebufferLength
  | framebufferOverflow
  | framebufferInUsableMemory
  deriving DecidableEq, Repr

/-- `validate_header`. -/
def validateHeader (header : BootHandoffHeader) : Except ValidationError Unit := do
  rejectIf (header.magic ≠ handoffMagic) .magic
  rejectIf (header.abiMajor ≠ abiMajor) .abiMajor
  rejectIf (header.abiMinor ≠ abiMinor) .abiMinor
  rejectIf (header.headerSize ≠ UInt32.ofNat headerSize) .headerSize
  rejectIf (header.handoffSize ≠ UInt32.ofNat handoffSize) .handoffSize
  rejectIf (header.flags &&& ~~~framebufferPresent ≠ 0) .flags
  rejectIf (header.reserved ≠ 0) .reserved

/-- `header.flags & FRAMEBUFFER_PRESENT != 0`. -/
def BootHandoff.hasFramebuffer (handoff : BootHandoff) : Bool :=
  handoff.header.flags &&& framebufferPresent ≠ 0

/-- The bytes that a framebuffer needs at least. -/
def Framebuffer.minimumLength (f : Framebuffer) : Option UInt64 :=
  (checkedMul f.stridePixels.toUInt64 f.height.toUInt64).bind (checkedMul · 4)

/-- `validate_framebuffer_shape`. -/
def validateFramebufferShape (handoff : BootHandoff) : Except ValidationError Unit :=
  let f := handoff.framebuffer
  if ¬ handoff.hasFramebuffer then rejectIf (¬ f.isZero) .framebufferFlag
  else do
    rejectIf (f.physicalStart = 0 ∨ f.byteLength = 0 ∨ f.width = 0 ∨ f.height = 0
      ∨ f.stridePixels = 0 ∨ f.reserved ≠ 0) .framebufferFields
    rejectIf (f.pixelFormat ≠ pixelFormatRgb ∧ f.pixelFormat ≠ pixelFormatBgr)
      .framebufferPixelFormat
    rejectIf (f.stridePixels < f.width) .framebufferStride
    let minimumLength ← okOr f.minimumLength .framebufferOverflow
    rejectIf (minimumLength > f.byteLength) .framebufferLength
    let _ ← okOr (checkedAdd f.physicalStart f.byteLength) .framebufferOverflow
    pure ()

/-- `validate_handoff_header`. -/
def validateHandoffHeader (handoff : BootHandoff) : Except ValidationError Nat := do
  validateHeader handoff.header
  rejectIf (handoff.memoryRegionCount = 0 ∨ handoff.memoryRegionCount.toNat > maxMemoryRegions)
    .regionCount
  rejectIf (handoff.memoryRegionsAddress = 0 ∨ handoff.memoryRegionsAddress % recordAlignment ≠ 0)
    .regionAddress
  rejectIf (handoff.memoryRegionEntrySize ≠ UInt32.ofNat regionSize) .regionEntrySize
  let regionCount := handoff.memoryRegionCount.toNat
  let regionBytes ← okOr (checkedMul handoff.memoryRegionCount.toUInt64 (UInt64.ofNat regionSize))
    .regionOverflow
  let _ ← okOr (checkedAdd handoff.memoryRegionsAddress regionBytes) .regionOverflow
  validateFramebufferShape handoff
  pure regionCount

/-- `region_end` of `validate.rs`. -/
def MemoryRegion.checkedEnd (region : MemoryRegion) : Except ValidationError UInt64 := do
  let bytes ← okOr (checkedMul region.pageCount pageSize) .regionOverflow
  okOr (checkedAdd region.physicalStart bytes) .regionOverflow

/-- `overlaps_usable`. -/
def overlapsUsable (start stop : UInt64) : List MemoryRegion → Except ValidationError Bool
  | [] => .ok false
  | region :: regions =>
    if region.kind ≠ memoryUsable then overlapsUsable start stop regions
    else do
      let regionEnd ← region.checkedEnd
      if start < regionEnd ∧ region.physicalStart < stop then .ok true
      else overlapsUsable start stop regions

/-- The loop over the regions in `validate_handoff`. -/
def validateRegionsFrom (previousStart previousEnd : Option UInt64) :
    List MemoryRegion → Except ValidationError Unit
  | [] => .ok ()
  | region :: regions => do
    rejectIf (region.pageCount = 0) .regionZeroPages
    rejectIf (region.physicalStart % pageSize ≠ 0) .regionAlignment
    rejectIf (¬ isKnownMemoryKind region.kind) .regionKind
    rejectIf (region.attributes ≠ 0) .regionAttributes
    let stop ← region.checkedEnd
    rejectIf (previousStart.any fun start => region.physicalStart < start) .regionOrder
    rejectIf (previousEnd.any fun priorEnd => region.physicalStart < priorEnd) .regionOverlap
    validateRegionsFrom (some region.physicalStart) (some stop) regions

/-- The checks of `validate_handoff` after its loop: what must not lie in usable memory. -/
def validateUsable (handoff : BootHandoff) (handoffAddress handoffEnd : UInt64)
    (regions : List MemoryRegion) (regionCount : Nat) : Except ValidationError Unit := do
  let inside ← overlapsUsable handoffAddress handoffEnd regions
  rejectIf inside .handoffInUsableMemory
  let regionArrayEnd ← okOr
    (checkedAdd handoff.memoryRegionsAddress (UInt64.ofNat (regionCount * regionSize)))
    .regionOverflow
  let inside ← overlapsUsable handoff.memoryRegionsAddress regionArrayEnd regions
  rejectIf inside .regionArrayInUsableMemory
  if handoff.hasFramebuffer then
    let framebufferEnd ← okOr
      (checkedAdd handoff.framebuffer.physicalStart handoff.framebuffer.byteLength)
      .framebufferOverflow
    let inside ← overlapsUsable handoff.framebuffer.physicalStart framebufferEnd regions
    rejectIf inside .framebufferInUsableMemory
  else pure ()

/-- `validate_handoff`, on the slice of regions at `regionsAddress`. -/
def validateHandoff (handoff : BootHandoff) (handoffAddress regionsAddress : UInt64)
    (regions : List MemoryRegion) : Except ValidationError Unit := do
  let regionCount ← validateHandoffHeader handoff
  rejectIf (handoffAddress = 0 ∨ handoffAddress % recordAlignment ≠ 0) .handoffAddress
  let handoffEnd ← okOr (checkedAdd handoffAddress (UInt64.ofNat handoffSize)) .handoffAddress
  rejectIf (regions.length ≠ regionCount ∨ handoff.memoryRegionsAddress ≠ regionsAddress)
    .regionSlice
  validateRegionsFrom none none regions
  validateUsable handoff handoffAddress handoffEnd regions regionCount

/-! ## What an accepted handoff is -/

/-- No byte from `start` up to `stop` lies in a usable page. -/
def ClearOfUsable (regions : List MemoryRegion) (start stop : UInt64) : Prop :=
  ∀ address : Nat, start.toNat ≤ address → address < stop.toNat →
    address / 4096 ∉ usableFrames regions

/-- A framebuffer that the kernel can draw on, or none. -/
structure FramebufferOk (f : Framebuffer) : Prop where
  start : f.physicalStart ≠ 0
  width : f.width ≠ 0
  height : f.height ≠ 0
  stride : f.width.toNat ≤ f.stridePixels.toNat
  reserved : f.reserved = 0
  format : f.pixelFormat = pixelFormatRgb ∨ f.pixelFormat = pixelFormatBgr
  length : f.stridePixels.toNat * f.height.toNat * 4 ≤ f.byteLength.toNat
  inside : f.physicalStart.toNat + f.byteLength.toNat < 2 ^ 64

end MakopaVerified.BootContract
