import MakopaVerified.BootContract.Handoff
import MakopaVerified.BootContract.Normalize
import MakopaVerified.KernelImage.Format

/-!
# The loader

`loader/src/main.rs`: from the kernel file, the graphics mode and the memory map that the firmware
hands out, the loader makes the handoff and the regions that the kernel starts with. What the firmware
answers is a record here, and every way in which the loader does not enter the kernel an error. The
bytes that the loader copies to the load addresses are left out.
-/

namespace MakopaVerified.Boot

open Foundation BootContract KernelImage

/-- The statuses that the loader returns, its own or those of a failed firmware call. -/
inductive Status where
  | loadError
  | outOfResources
  | firmware (code : UInt64)
  deriving DecidableEq, Repr

/-- Why the kernel is not entered. -/
inductive LoaderStop where
  | status (status : Status)
  | panic (panic : Panic)
  /-- `post_exit_failure` -/
  | afterExit
  deriving DecidableEq, Repr

/-- `MemoryType` of the firmware. -/
inductive MemoryType where
  | conventional
  | loaderCode
  | loaderData
  | bootServicesCode
  | bootServicesData
  | acpiReclaim
  | acpiNonVolatile
  | mmio
  | mmioPortSpace
  | other (code : UInt32)
  deriving DecidableEq, Repr

/-- An entry of the memory map. -/
structure MemoryDescriptor where
  ty : MemoryType
  physStart : UInt64
  pageCount : UInt64
  deriving DecidableEq, Repr

inductive PixelFormat where
  | rgb
  | bgr
  | bitmask
  | bltOnly
  deriving DecidableEq, Repr

/-- The current mode of the graphics protocol and its frame buffer. -/
structure GraphicsMode where
  pixelFormat : PixelFormat
  width : UInt64
  height : UInt64
  stride : UInt64
  bufferAddress : UInt64
  bufferSize : UInt64

/-- The answers of the firmware. There is no graphics mode when the protocol is missing or cannot be
opened. -/
structure Firmware where
  kernelFileSize : Except Status UInt64
  kernelFile : Except Status ImageBytes
  allocateAddress : UInt64 → Nat → Except Status Unit
  graphics : Option GraphicsMode
  handoffPage : Except Status UInt64
  regionStorage : Except Status UInt64
  memoryMap : List MemoryDescriptor

def maxKernelImageSize : UInt64 := 16 * 1024 * 1024
def maxRegionOverrides : Nat := maximumLoadSegments + 1

/-- `REGION_STORAGE_PAGES`. -/
def regionStoragePages : Nat := (maxMemoryRegions * regionSize + 4095) / 4096

/-- `?` on a firmware call. -/
def orStop {α : Type} (call : Except Status α) : Except LoaderStop α := call.mapError .status

/-- `read_kernel`. -/
def readKernel (firmware : Firmware) : Except LoaderStop ImageBytes := do
  let size ← orStop firmware.kernelFileSize
  rejectIf (size = 0 ∨ maxKernelImageSize < size) (.status .loadError)
  orStop firmware.kernelFile

/-- `for segment in image.segments()`. -/
def loadedSegments (image : ValidatedImage) : Except LoaderStop (List Segment) :=
  (image.segments.collect (image.programHeaderCount + 1)).mapError .panic

/-- The override that keeps the pages of a kernel segment. -/
def kernelOverride (segment : Segment) : MemoryRegionOverride where
  physicalStart := segment.physicalStart
  pageCount := UInt64.ofNat segment.pageCount
  kind := memoryReserved
  requireFullCoverage := true

/-- The loop of `collect_kernel_overrides`. -/
def collectFrom (overrides : List MemoryRegionOverride) :
    List Segment → Except LoaderStop (List MemoryRegionOverride)
  | [] => pure overrides
  | segment :: segments => do
    rejectIf (overrides.length = maximumLoadSegments) (.status .loadError)
    collectFrom (overrides ++ [kernelOverride segment]) segments

/-- `collect_kernel_overrides`. -/
def collectKernelOverrides (image : ValidatedImage) :
    Except LoaderStop (List MemoryRegionOverride) := do
  let segments ← loadedSegments image
  collectFrom [] segments

/-- The loop of `load_segments`. A `memory_size` never is above `usize::MAX`. -/
def loadEach (firmware : Firmware) : List Segment → Except LoaderStop Unit
  | [] => pure ()
  | segment :: segments => do
    rejectIf (segment.pageCount = 0) (.status .loadError)
    orStop (firmware.allocateAddress segment.physicalStart segment.pageCount)
    loadEach firmware segments

/-- `load_segments`. -/
def loadSegments (firmware : Firmware) (image : ValidatedImage) : Except LoaderStop Unit := do
  let segments ← loadedSegments image
  loadEach firmware segments

/-- `u32::try_from(value).map_err(|_| Status::LOAD_ERROR)`. -/
def u32TryFrom (value : UInt64) : Except LoaderStop UInt32 :=
  if value.toNat < 2 ^ 32 then .ok value.toUInt32 else .error (.status .loadError)

/-- The part of `capture_framebuffer` after the pixel format. -/
def captureMode (mode : GraphicsMode) (pixelFormat : UInt32) : Except LoaderStop Framebuffer := do
  rejectIf (mode.width = 0 ∨ mode.height = 0 ∨ mode.stride < mode.width) (.status .loadError)
  let minimumLength ← okOr ((checkedMul mode.stride mode.height).bind (checkedMul · 4))
    (.status .loadError)
  rejectIf (mode.bufferAddress = 0 ∨ mode.bufferSize < minimumLength ∨
    checkedAdd mode.bufferAddress mode.bufferSize = none) (.status .loadError)
  let width ← u32TryFrom mode.width
  let height ← u32TryFrom mode.height
  let stridePixels ← u32TryFrom mode.stride
  pure
    { physicalStart := mode.bufferAddress, byteLength := mode.bufferSize, width, height, stridePixels,
      pixelFormat, reserved := 0 }

/-- `capture_framebuffer`. -/
def captureFramebuffer : Option GraphicsMode → Except LoaderStop Framebuffer
  | none => pure .default
  | some mode =>
    match mode.pixelFormat with
    | .rgb => captureMode mode pixelFormatRgb
    | .bgr => captureMode mode pixelFormatBgr
    | .bitmask => pure .default
    | .bltOnly => pure .default

/-- `address & !(PAGE_SIZE - 1)`. -/
def pageFloor (address : UInt64) : UInt64 := address &&& ~~~(BootContract.pageSize - 1)

/-- `add_framebuffer_override`. -/
def addFramebufferOverride (framebuffer : Framebuffer) (overrides : List MemoryRegionOverride) :
    Except LoaderStop (List MemoryRegionOverride) :=
  if framebuffer.isZero then pure overrides
  else do
    rejectIf (overrides.length = maxRegionOverrides) (.status .outOfResources)
    let start := pageFloor framebuffer.physicalStart
    let rounded ← okOr ((checkedAdd framebuffer.physicalStart framebuffer.byteLength).bind
      (checkedAdd · (BootContract.pageSize - 1))) (.status .loadError)
    let stop := pageFloor rounded
    pure (overrides ++ [
      { physicalStart := start
        pageCount := (stop - start) / BootContract.pageSize
        kind := memoryMmio
        requireFullCoverage := false }])

/-- `memory_kind`. -/
def memoryKind : MemoryType → UInt32
  | .conventional => memoryUsable
  | .loaderCode | .loaderData | .bootServicesCode | .bootServicesData => memoryLoaderReclaimable
  | .acpiReclaim => memoryAcpiReclaimable
  | .acpiNonVolatile => memoryAcpiNvs
  | .mmio | .mmioPortSpace => memoryMmio
  | .other _ => memoryReserved

/-- The source region of a memory descriptor. -/
def MemoryDescriptor.source (descriptor : MemoryDescriptor) : SourceMemoryRegion :=
  ⟨descriptor.physStart, descriptor.pageCount, memoryKind descriptor.ty⟩

/-- `memory_map.sort()` and the source regions. -/
def mapSources (firmware : Firmware) : List SourceMemoryRegion :=
  (firmware.memoryMap.insertionSort fun a b => a.physStart ≤ b.physStart).map MemoryDescriptor.source

/-- `overrides[..override_count].sort_unstable_by_key(|region| region.physical_start)`. Where two keys
are the same the overrides overlap and `normalize_memory_regions` fails in either order. -/
def sortOverrides (overrides : List MemoryRegionOverride) : List MemoryRegionOverride :=
  overrides.insertionSort fun a b => a.physicalStart ≤ b.physicalStart

/-- What the kernel is entered with: its entry point, the address of the handoff, and what the loader
has written there and to the region storage. -/
structure Entered where
  entry : UInt64
  handoffAddress : UInt64
  handoff : BootHandoff
  regions : List MemoryRegion

/-- The handoff that the loader writes. -/
def loaderHandoff (framebuffer : Framebuffer) (regionStorage : UInt64) (regionCount : Nat) :
    BootHandoff where
  header := if framebuffer.isZero then .new else { BootHandoffHeader.new with flags := framebufferPresent }
  memoryRegionsAddress := regionStorage
  memoryRegionCount := UInt32.ofNat regionCount
  memoryRegionEntrySize := UInt32.ofNat regionSize
  framebuffer := framebuffer

/-- `load_and_enter_kernel`. -/
def loadAndEnterKernel (firmware : Firmware) : Except LoaderStop Entered := do
  let kernelBytes ← readKernel firmware
  let image ← (ValidatedImage.parse kernelBytes).mapError fun _ => .status .loadError
  let overrides ← collectKernelOverrides image
  loadSegments firmware image
  let framebuffer ← captureFramebuffer firmware.graphics
  let overrides ← addFramebufferOverride framebuffer overrides
  let handoffAddress ← orStop firmware.handoffPage
  let regionStorage ← orStop firmware.regionStorage
  match (normalizeMemoryRegions (mapSources firmware) (sortOverrides overrides)).run
      (Vector.replicate maxMemoryRegions ⟨0, 0, 0, 0⟩) with
  | (.error _, _) => .error .afterExit
  | (.ok regionCount, regions) =>
    pure
      { entry := image.entry
        handoffAddress
        handoff := loaderHandoff framebuffer regionStorage regionCount
        regions := live regions regionCount }

/-! ## What the firmware is trusted with -/

/-- Pages that the memory map lists as loader data. -/
structure LoaderPages (firmware : Firmware) (address : UInt64) (pages : Nat) : Prop where
  nonzero : address ≠ 0
  aligned : address.toNat % 4096 = 0
  listed : ∀ frame, frameNumber address ≤ frame → frame < frameNumber address + pages →
    ∃ descriptor ∈ firmware.memoryMap, descriptor.ty = .loaderData ∧
      descriptor.source.region.span.Has frame

/-- The addresses of the bytes that the kernel needs after it was entered: the pages of its segments,
the framebuffer, the handoff and the regions. -/
def keptBytes (kernelBytes : ImageBytes) (entered : Entered) : Set Nat :=
  { byte | ∃ header ∈ loadHeaders kernelBytes.data, byte ∈ header.segment.pages } ∪
    Set.Ico entered.handoff.framebuffer.physicalStart.toNat
      (entered.handoff.framebuffer.physicalStart.toNat +
        entered.handoff.framebuffer.byteLength.toNat) ∪
    Set.Ico entered.handoffAddress.toNat (entered.handoffAddress.toNat + handoffSize) ∪
    Set.Ico entered.handoff.memoryRegionsAddress.toNat
      (entered.handoff.memoryRegionsAddress.toNat + entered.regions.length * regionSize)

/-- The addresses of the bytes of a page frame. -/
def frameBytes (address : UInt64) : Set Nat := Set.Ico address.toNat (address.toNat + 4096)

end MakopaVerified.Boot
