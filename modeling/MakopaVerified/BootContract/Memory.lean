import MakopaVerified.Foundation.Words

/-!
# Memory regions of the boot handoff

The part of `crates/boot-contract` that describes physical memory: the record of one region, its
kinds and the fixed page size.
-/

namespace MakopaVerified.BootContract

def pageSize : UInt64 := 4096

def maxMemoryRegions : Nat := 1024

def memoryReserved : UInt32 := 0
def memoryUsable : UInt32 := 1
def memoryLoaderReclaimable : UInt32 := 2
def memoryAcpiReclaimable : UInt32 := 3
def memoryAcpiNvs : UInt32 := 4
def memoryMmio : UInt32 := 5

/-- `is_known_memory_kind`. -/
def isKnownMemoryKind (kind : UInt32) : Bool := kind ≤ memoryMmio

/-- `MemoryRegionV1`. -/
structure MemoryRegion where
  physicalStart : UInt64
  pageCount : UInt64
  kind : UInt32
  attributes : UInt32
  deriving DecidableEq, Repr

end MakopaVerified.BootContract
