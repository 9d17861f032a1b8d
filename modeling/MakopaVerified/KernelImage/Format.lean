import MakopaVerified.KernelImage.Image

/-!
# What a kernel image is

The format by itself: where the fields of the file header and of the program headers are, and what a
file has to say there for the loader to take it as a kernel.
-/

namespace MakopaVerified.KernelImage

open Foundation

/-- A program header, as it stands in the file. -/
structure ProgramHeader where
  kind : UInt32
  flags : UInt32
  fileOffset : UInt64
  virtualStart : UInt64
  physicalStart : UInt64
  fileSize : UInt64
  memorySize : UInt64
  alignment : UInt64
  deriving DecidableEq, Repr

/-- The program header at an offset of the file. -/
def headerAt (file : List UInt8) (offset : Nat) : ProgramHeader where
  kind := UInt32.ofNat (leAt file offset 4)
  flags := UInt32.ofNat (leAt file (offset + 4) 4)
  fileOffset := UInt64.ofNat (leAt file (offset + 8) 8)
  virtualStart := UInt64.ofNat (leAt file (offset + 16) 8)
  physicalStart := UInt64.ofNat (leAt file (offset + 24) 8)
  fileSize := UInt64.ofNat (leAt file (offset + 32) 8)
  memorySize := UInt64.ofNat (leAt file (offset + 40) 8)
  alignment := UInt64.ofNat (leAt file (offset + 48) 8)

def entryPoint (file : List UInt8) : UInt64 := UInt64.ofNat (leAt file 24 8)

def tableOffset (file : List UInt8) : Nat := leAt file 32 8

def tableLength (file : List UInt8) : Nat := leAt file 56 2

/-- The load headers among the first `count` of a table. -/
def loadsUpTo (file : List UInt8) (offset count : Nat) : List ProgramHeader :=
  ((List.range count).map fun index => headerAt file (offset + programHeaderSize * index)).filter
    (·.kind = programHeaderLoad)

/-- The load headers of the file, in their order. -/
def loadHeaders (file : List UInt8) : List ProgramHeader :=
  loadsUpTo file (tableOffset file) (tableLength file)

namespace ProgramHeader

/-- Where the segment ends in memory. -/
def memoryEnd (header : ProgramHeader) : Nat :=
  header.physicalStart.toNat + header.memorySize.toNat

/-- The header describes a segment that can be loaded from a file of this length. -/
structure Loadable (header : ProgramHeader) (fileLength : Nat) : Prop where
  fileSize_le : header.fileSize.toNat ≤ header.memorySize.toNat
  memorySize_ne : header.memorySize.toNat ≠ 0
  identity : header.virtualStart = header.physicalStart
  high : 0x100000 ≤ header.physicalStart.toNat
  onPage : header.physicalStart.toNat % 4096 = 0
  alignment_ge : 4096 ≤ header.alignment.toNat
  alignment_pow : ∃ k, header.alignment.toNat = 2 ^ k
  congruent : header.fileOffset.toNat % header.alignment.toNat =
    header.virtualStart.toNat % header.alignment.toNat
  inFile : header.fileOffset.toNat + header.fileSize.toNat ≤ fileLength
  inMemory : header.memoryEnd < 2 ^ 64

/-- The segments do not overlap in memory. -/
def Apart (header other : ProgramHeader) : Prop :=
  header.memoryEnd ≤ other.physicalStart.toNat ∨ other.memoryEnd ≤ header.physicalStart.toNat

/-- The segment is executable and has the entry point in it. -/
def Enters (header : ProgramHeader) (entry : UInt64) : Prop :=
  header.flags &&& programFlagExecute ≠ 0 ∧ header.physicalStart.toNat ≤ entry.toNat ∧
    entry.toNat < header.memoryEnd

instance (header : ProgramHeader) (entry : UInt64) : Decidable (header.Enters entry) :=
  inferInstanceAs (Decidable (_ ∧ _ ∧ _))

/-- The segment of the header. -/
def segment (header : ProgramHeader) : Segment where
  fileOffset := header.fileOffset.toNat
  fileSize := header.fileSize.toNat
  physicalStart := header.physicalStart
  memorySize := header.memorySize
  flags := header.flags

end ProgramHeader

/-- The file header: identification, type, machine, version and sizes, and a table in the file. -/
structure ElfHeader (file : List UInt8) : Prop where
  long : elfHeaderSize ≤ file.length
  magic : file.take 4 = elfMagic
  wordSize : file.getD 4 0 = 2
  byteOrder : file.getD 5 0 = 1
  identVersion : file.getD 6 0 = 1
  version : leAt file 20 4 = 1
  type : leAt file 16 2 = elfTypeExecutable.toNat
  machine : leAt file 18 2 = elfMachineX86_64.toNat
  headerSize : leAt file 52 2 = elfHeaderSize
  entrySize : leAt file 54 2 = programHeaderSize
  tableInside : tableOffset file + programHeaderSize * tableLength file ≤ file.length

/-- The load headers of a kernel. -/
structure LoadsOk (loads : List ProgramHeader) (fileLength : Nat) : Prop where
  few : loads.length ≤ maximumLoadSegments
  loadable : ∀ header ∈ loads, header.Loadable fileLength
  apart : loads.Pairwise ProgramHeader.Apart

/-- A kernel image. -/
structure IsKernelImage (file : List UInt8) : Prop extends
    ElfHeader file, LoadsOk (loadHeaders file) file.length where
  nonempty : loadHeaders file ≠ []
  enters : ∃ header ∈ loadHeaders file, header.Enters (entryPoint file)

/-- The addresses of the pages of a segment, as numbers. -/
def Segment.pages (segment : Segment) : Set Nat :=
  Set.Ico segment.physicalStart.toNat (segment.physicalStart.toNat + segment.pageCount * 4096)

end MakopaVerified.KernelImage
