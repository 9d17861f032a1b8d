import MakopaVerified.Foundation.Words

/-!
# The fixed layout of a task's address space

`crates/address-space`: the roles of the seven frames of a task, the six links between them, and the
page-table entries that the links stand for. The guard pages of the stacks and the checks of the
layout are not modelled.
-/

namespace MakopaVerified.AddressSpace

open Foundation

def pageSize : UInt64 := 4096
def taskLedgerCapacity : Nat := 16
def taskFrameCount : Nat := 7

def userText : UInt64 := 0x0000008000400000
def userStack : UInt64 := 0x0000008000800000
def userStackTop : UInt64 := userStack + pageSize

def recoveryStackBase : UInt64 := 0xffffff0000001000
def recoveryStackSize : UInt64 := 64 * 1024
def recoveryStackTop : UInt64 := recoveryStackBase + recoveryStackSize

def pml4Index (address : UInt64) : Nat := ((address >>> 39) &&& 0x1ff).toNat
def pml3Index (address : UInt64) : Nat := ((address >>> 30) &&& 0x1ff).toNat
def pml2Index (address : UInt64) : Nat := ((address >>> 21) &&& 0x1ff).toNat
def pml1Index (address : UInt64) : Nat := ((address >>> 12) &&& 0x1ff).toNat

structure MappingFlags where
  bits : UInt64
  deriving DecidableEq, Repr

namespace MappingFlags

def present : MappingFlags := ⟨(1 : UInt64) <<< 0⟩
def writable : MappingFlags := ⟨(1 : UInt64) <<< 1⟩
def userAccessible : MappingFlags := ⟨(1 : UInt64) <<< 2⟩
def noExecute : MappingFlags := ⟨(1 : UInt64) <<< 63⟩

def union (a b : MappingFlags) : MappingFlags := ⟨a.bits ||| b.bits⟩

end MappingFlags

open MappingFlags

def tableFlags : MappingFlags := (present.union writable).union userAccessible
def userTextFlags : MappingFlags := present.union userAccessible
def userStackFlags : MappingFlags := ((present.union writable).union userAccessible).union noExecute

structure MappingSpec where
  virtualAddress : UInt64
  flags : MappingFlags
  deriving DecidableEq, Repr

def userMappings : List MappingSpec := [⟨userText, userTextFlags⟩, ⟨userStack, userStackFlags⟩]

inductive FrameRole where
  | root
  | userPml3
  | userPml2
  | textPml1
  | stackPml1
  | text
  | stack
  deriving DecidableEq, Repr

/-- `FrameRole::ALL`. -/
def FrameRole.all : List FrameRole :=
  [.root, .userPml3, .userPml2, .textPml1, .stackPml1, .text, .stack]

structure LinkSpec where
  parent : FrameRole
  child : FrameRole
  entryIndex : Nat
  flags : MappingFlags
  deriving DecidableEq, Repr

def buildLinks : List LinkSpec :=
  [⟨.root, .userPml3, pml4Index userText, tableFlags⟩,
    ⟨.userPml3, .userPml2, pml3Index userText, tableFlags⟩,
    ⟨.userPml2, .textPml1, pml2Index userText, tableFlags⟩,
    ⟨.userPml2, .stackPml1, pml2Index userStack, tableFlags⟩,
    ⟨.textPml1, .text, pml1Index userText, userTextFlags⟩,
    ⟨.stackPml1, .stack, pml1Index userStack, userStackFlags⟩]

end MakopaVerified.AddressSpace
