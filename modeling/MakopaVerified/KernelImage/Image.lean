import MakopaVerified.BootContract.Memory
import MakopaVerified.Foundation.Bytes
import MakopaVerified.Foundation.Checks

/-!
# The kernel image

`crates/kernel-image`: the loader reads the kernel from a file in the ELF format and believes nothing
that the file says about itself before it has checked it. A `usize` is a `Nat` here, with its bound
where the source checks for it; the target has 64-bit words, so a `u64` always is a `usize`.
-/

namespace MakopaVerified.KernelImage

open Foundation

def elfHeaderSize : Nat := 64
def programHeaderSize : Nat := 56
def programHeaderLoad : UInt32 := 1
def programFlagExecute : UInt32 := 1
def elfMachineX86_64 : UInt16 := 62
def elfTypeExecutable : UInt16 := 2
def pageSize : UInt64 := 4096
def minimumLoadAddress : UInt64 := 0x100000
def maximumLoadSegments : Nat := 16

/-- `b"\x7fELF"`. -/
def elfMagic : List UInt8 := [0x7f, 0x45, 0x4c, 0x46]

inductive ImageError where
  | imageTooSmall
  | invalidMagic
  | unsupportedClass
  | unsupportedEndianness
  | unsupportedVersion
  | unsupportedType
  | unsupportedMachine
  | invalidHeaderSize
  | invalidProgramHeaderSize
  | missingProgramHeaders
  | tooManyLoadSegments
  | programHeaderTableOutOfBounds
  | segmentOutOfBounds
  | segmentFilesLargerThanMemory
  | segmentAddressMismatch
  | segmentAddressTooLow
  | segmentAlignment
  | segmentOverlap
  | entryNotExecutable
  | arithmeticOverflow
  deriving DecidableEq, Repr

/-- A slice of bytes; Rust has none longer than `isize::MAX`. -/
structure ImageBytes where
  data : List UInt8
  length_lt : data.length < 2 ^ 63

/-- `bytes.len()`. -/
def ImageBytes.len (bytes : ImageBytes) : Nat := bytes.data.length

/-- `usize::checked_add`. -/
def usizeAdd (a b : Nat) : Option Nat := if a + b < 2 ^ 64 then some (a + b) else none

/-- `usize::checked_mul`. -/
def usizeMul (a b : Nat) : Option Nat := if a * b < 2 ^ 64 then some (a * b) else none

/-- `bytes.get(offset..offset + width).ok_or(Error::ImageTooSmall)`, and the number there. -/
def readLe (bytes : ImageBytes) (offset width : Nat) : Except ImageError Nat :=
  (okOr (getRange bytes.data offset (offset + width)) .imageTooSmall).map fromLe

/-- `read_u16`. -/
def readU16 (bytes : ImageBytes) (offset : Nat) : Except ImageError UInt16 :=
  (readLe bytes offset 2).map UInt16.ofNat

/-- `read_u32`. -/
def readU32 (bytes : ImageBytes) (offset : Nat) : Except ImageError UInt32 :=
  (readLe bytes offset 4).map UInt32.ofNat

/-- `read_u64`. -/
def readU64 (bytes : ImageBytes) (offset : Nat) : Except ImageError UInt64 :=
  (readLe bytes offset 8).map UInt64.ofNat

/-- `ranges_overlap`. -/
def rangesOverlap (leftStart leftEnd rightStart rightEnd : UInt64) : Bool :=
  leftStart < rightEnd && rightStart < leftEnd

/-- `u64::is_power_of_two`. -/
def isPowerOfTwo (value : UInt64) : Bool := (List.range 64).any fun k => value.toNat = 2 ^ k

structure Segment where
  fileOffset : Nat
  fileSize : Nat
  physicalStart : UInt64
  memorySize : UInt64
  flags : UInt32
  deriving DecidableEq, Repr

namespace Segment

def isExecutable (segment : Segment) : Bool := segment.flags &&& programFlagExecute ≠ 0

def memoryEnd (segment : Segment) : Except ImageError UInt64 :=
  okOr (checkedAdd segment.physicalStart segment.memorySize) .arithmeticOverflow

/-- `memory_size.div_ceil(PAGE_SIZE) as usize`. -/
def pageCount (segment : Segment) : Nat := (segment.memorySize.toNat + 4095) / 4096

end Segment

structure ValidatedImage where
  bytes : ImageBytes
  entry : UInt64
  programHeadersOffset : Nat
  programHeaderCount : Nat

namespace ValidatedImage

/-- `segment_at`. -/
def segmentAt (image : ValidatedImage) (index : Nat) : Except ImageError (Option Segment) := do
  let inTable ← okOr (usizeMul programHeaderSize index) .arithmeticOverflow
  let offset ← okOr (usizeAdd image.programHeadersOffset inTable) .arithmeticOverflow
  let kind ← readU32 image.bytes offset
  if kind ≠ programHeaderLoad then pure none
  else do
    let flags ← readU32 image.bytes (offset + 4)
    let fileOffset ← readU64 image.bytes (offset + 8)
    let virtualStart ← readU64 image.bytes (offset + 16)
    let physicalStart ← readU64 image.bytes (offset + 24)
    let fileSize ← readU64 image.bytes (offset + 32)
    let memorySize ← readU64 image.bytes (offset + 40)
    let alignment ← readU64 image.bytes (offset + 48)
    rejectIf (memorySize < fileSize ∨ memorySize = 0) .segmentFilesLargerThanMemory
    rejectIf (virtualStart ≠ physicalStart) .segmentAddressMismatch
    rejectIf (physicalStart < minimumLoadAddress) .segmentAddressTooLow
    rejectIf (physicalStart % pageSize ≠ 0 ∨ alignment < pageSize ∨ isPowerOfTwo alignment = false ∨
      fileOffset % alignment ≠ virtualStart % alignment) .segmentAlignment
    let fileEnd ← okOr (usizeAdd fileOffset.toNat fileSize.toNat) .arithmeticOverflow
    rejectIf (image.bytes.len < fileEnd) .segmentOutOfBounds
    let _ ← okOr (checkedAdd physicalStart memorySize) .arithmeticOverflow
    pure (some
      { fileOffset := fileOffset.toNat, fileSize := fileSize.toNat, physicalStart, memorySize, flags })

/-- The inner loop of `validate_segments`: the load segments before `index` do not overlap. -/
def checkPrior (image : ValidatedImage) (segment : Segment) (segmentEnd : UInt64) :
    Nat → Except ImageError Unit
  | 0 => pure ()
  | priorIndex + 1 => do
    checkPrior image segment segmentEnd priorIndex
    match ← image.segmentAt priorIndex with
    | none => pure ()
    | some prior => do
      let priorEnd ← prior.memoryEnd
      rejectIf (rangesOverlap segment.physicalStart segmentEnd prior.physicalStart priorEnd)
        .segmentOverlap

/-- The outer loop of `validate_segments`, over the first `count` headers: `load_segments` and
`entry_is_executable`. -/
def scanHeaders (image : ValidatedImage) : Nat → Except ImageError (Nat × Bool)
  | 0 => pure (0, false)
  | index + 1 => do
    let (loadSegments, entryIsExecutable) ← scanHeaders image index
    match ← image.segmentAt index with
    | none => pure (loadSegments, entryIsExecutable)
    | some segment => do
      rejectIf (maximumLoadSegments < loadSegments + 1) .tooManyLoadSegments
      let segmentEnd ← segment.memoryEnd
      let holdsEntry := segment.isExecutable && segment.physicalStart ≤ image.entry &&
        image.entry < segmentEnd
      image.checkPrior segment segmentEnd index
      pure (loadSegments + 1, entryIsExecutable || holdsEntry)

/-- `validate_segments`. -/
def validateSegments (image : ValidatedImage) : Except ImageError Unit := do
  let (loadSegments, entryIsExecutable) ← image.scanHeaders image.programHeaderCount
  rejectIf (loadSegments = 0) .missingProgramHeaders
  rejectIf (entryIsExecutable = false) .entryNotExecutable

/-- `ValidatedImage::parse`. -/
def parse (bytes : ImageBytes) : Except ImageError ValidatedImage := do
  rejectIf (bytes.len < elfHeaderSize) .imageTooSmall
  rejectIf (getRange bytes.data 0 4 ≠ some elfMagic) .invalidMagic
  rejectIf (bytes.data.getD 4 0 ≠ 2) .unsupportedClass
  rejectIf (bytes.data.getD 5 0 ≠ 1) .unsupportedEndianness
  -- `bytes[6] != 1 || read_u32(bytes, 20)? != 1`
  rejectIf (bytes.data.getD 6 0 ≠ 1) .unsupportedVersion
  let version ← readU32 bytes 20
  rejectIf (version ≠ 1) .unsupportedVersion
  let type ← readU16 bytes 16
  rejectIf (type ≠ elfTypeExecutable) .unsupportedType
  let machine ← readU16 bytes 18
  rejectIf (machine ≠ elfMachineX86_64) .unsupportedMachine
  let headerSize ← readU16 bytes 52
  rejectIf (headerSize.toNat ≠ elfHeaderSize) .invalidHeaderSize
  let entrySize ← readU16 bytes 54
  rejectIf (entrySize.toNat ≠ programHeaderSize) .invalidProgramHeaderSize
  let programHeaderCount ← readU16 bytes 56
  rejectIf (programHeaderCount.toNat = 0) .missingProgramHeaders
  let programHeadersOffset ← readU64 bytes 32
  let tableSize ← okOr (usizeMul programHeaderSize programHeaderCount.toNat) .arithmeticOverflow
  let tableEnd ← okOr (usizeAdd programHeadersOffset.toNat tableSize) .arithmeticOverflow
  rejectIf (bytes.len < tableEnd) .programHeaderTableOutOfBounds
  let entry ← readU64 bytes 24
  let image : ValidatedImage :=
    ⟨bytes, entry, programHeadersOffset.toNat, programHeaderCount.toNat⟩
  image.validateSegments
  pure image

/-- `file_bytes`: the range of the file, if it is inside. -/
def fileBytes (image : ValidatedImage) (segment : Segment) : Option (List UInt8) :=
  getRange image.bytes.data segment.fileOffset (segment.fileOffset + segment.fileSize)

end ValidatedImage

/-! ## The iterator -/

structure Segments where
  image : ValidatedImage
  nextIndex : Nat

/-- `segments`. -/
def ValidatedImage.segments (image : ValidatedImage) : Segments := ⟨image, 0⟩

/-- Where a call of the iterator can stop the loader. -/
inductive Panic where
  /-- `unreachable!("validated program header changed")` -/
  | programHeaderChanged
  deriving DecidableEq, Repr

/-- The loop of `next`, with `left` headers to go. -/
def Segments.nextFrom (image : ValidatedImage) :
    Nat → Nat → Except Panic (Option Segment × Segments)
  | 0, index => .ok (none, ⟨image, index⟩)
  | left + 1, index =>
    match image.segmentAt index with
    | .ok (some segment) => .ok (some segment, ⟨image, index + 1⟩)
    | .ok none => nextFrom image left (index + 1)
    | .error _ => .error .programHeaderChanged

/-- `Segments::next`. -/
def Segments.next (segments : Segments) : Except Panic (Option Segment × Segments) :=
  nextFrom segments.image (segments.image.programHeaderCount - segments.nextIndex) segments.nextIndex

/-- The segments that a `for` loop goes through, in at most `fuel` rounds. -/
def Segments.collect : Nat → Segments → Except Panic (List Segment)
  | 0, _ => .ok []
  | fuel + 1, segments =>
    match segments.next with
    | .error panic => .error panic
    | .ok (none, _) => .ok []
    | .ok (some segment, rest) => (collect fuel rest).map (segment :: ·)

/-- Calling `next` until it returns `None` yields these segments. -/
inductive Segments.Yields : Segments → List Segment → Prop where
  | done {segments segments' : Segments} : segments.next = .ok (none, segments') → Yields segments []
  | more {segments segments' : Segments} {segment : Segment} {rest : List Segment} :
      segments.next = .ok (some segment, segments') → Yields segments' rest →
      Yields segments (segment :: rest)

end MakopaVerified.KernelImage
