import MakopaVerified.AddressSpace.Layout
import MakopaVerified.Foundation.Method

/-!
# The owner of an address space

`crates/address-space`: the ledger of the frames that a task's address space owns, in the order of
their allocation, and the owner with its lifecycle. The ledger of the source is an array with a
length; here it is the list of the entries in use, and the array's size is the check in `pushOwned`.
-/

namespace MakopaVerified.AddressSpace

open Foundation

inductive LifecycleState where
  | building
  | inactive
  | active
  | dead
  deriving DecidableEq, Repr

structure OwnedFrame where
  role : FrameRole
  physicalStart : UInt64
  deriving DecidableEq, Repr

inductive OwnerError where
  | invalidGeneration
  | invalidFrame
  | duplicateFrame
  | ledgerFull
  | wrongState
  | rootNotOwned
  | staleOwner
  | staleToken
  | invalidTokenAddress
  deriving DecidableEq, Repr

/-- `FrameLedger`. -/
structure FrameLedger where
  frames : List OwnedFrame
  deriving DecidableEq, Repr

namespace FrameLedger

/-- `FrameLedger::new`. -/
def new : FrameLedger := ⟨[]⟩

/-- `FrameLedger::push_owned`. -/
def pushOwned (frame : OwnedFrame) : Method FrameLedger OwnerError Unit := do
  let ledger ← Method.self
  if ledger.frames.length = taskLedgerCapacity then Method.fail .ledgerFull
  else Method.update fun ledger => ⟨ledger.frames ++ [frame]⟩

/-- `FrameLedger::validate_latest`. -/
def validateLatest (ledger : FrameLedger) : Except OwnerError Unit :=
  match ledger.frames.getLast? with
  | none => .ok ()
  | some frame =>
    if frame.physicalStart % pageSize ≠ 0 then .error .invalidFrame
    else if ledger.frames.dropLast.any fun owned =>
        owned.physicalStart = frame.physicalStart || owned.role = frame.role then
      .error .duplicateFrame
    else .ok ()

/-- `FrameLedger::pop`, whose result is not used. -/
def pop (ledger : FrameLedger) : FrameLedger := ⟨ledger.frames.dropLast⟩

/-- `FrameLedger::frame_for`. -/
def frameFor (ledger : FrameLedger) (role : FrameRole) : Option UInt64 :=
  (ledger.frames.find? (·.role = role)).map (·.physicalStart)

end FrameLedger

structure AddressSpaceOwner where
  generation : UInt64
  generationLive : Bool
  state : LifecycleState
  root : Option UInt64
  ledger : FrameLedger
  deriving DecidableEq, Repr

namespace AddressSpaceOwner

/-- `AddressSpaceOwner::begin`. -/
def begin (generation : UInt64) : Except OwnerError AddressSpaceOwner :=
  if generation = 0 then .error .invalidGeneration
  else .ok
    { generation := generation
      generationLive := true
      state := .building
      root := none
      ledger := .new }

/-- `AddressSpaceOwner::record_frame`. -/
def recordFrame (frame : OwnedFrame) : Method AddressSpaceOwner OwnerError Unit := do
  let owner ← Method.self
  if owner.state ≠ .building ∨ owner.generationLive = false then Method.fail .wrongState
  else do
    Method.onPart (·.ledger) (fun ledger owner => { owner with ledger := ledger }) id
      (FrameLedger.pushOwned frame)
    Method.query fun owner => owner.ledger.validateLatest

/-- `AddressSpaceOwner::publish`. -/
def publish (root : UInt64) : Method AddressSpaceOwner OwnerError Unit := do
  let owner ← Method.self
  if owner.state ≠ .building ∨ owner.generationLive = false then Method.fail .wrongState
  else if owner.ledger.frameFor .root ≠ some root
      ∨ owner.ledger.frames.length ≠ taskFrameCount then Method.fail .rootNotOwned
  else Method.update fun owner => { owner with root := some root, state := .inactive }

/-- `AddressSpaceOwner::activate`. -/
def activate : Method AddressSpaceOwner OwnerError Unit := do
  let owner ← Method.self
  if owner.state ≠ .inactive ∨ owner.generationLive = false then Method.fail .wrongState
  else Method.update fun owner => { owner with state := .active }

/-- `AddressSpaceOwner::recover`. -/
def recover : Method AddressSpaceOwner OwnerError Unit := do
  let owner ← Method.self
  if owner.state ≠ .active ∨ owner.generationLive = false then Method.fail .wrongState
  else Method.update fun owner => { owner with state := .inactive }

end AddressSpaceOwner

/-- `MappingToken`: a page of an address space, by the generation of its owner. -/
structure MappingToken where
  generation : UInt64
  virtualAddress : UInt64
  deriving DecidableEq, Repr

namespace AddressSpaceOwner

/-- The address is not that of a page of the fixed layout. -/
def invalidTokenAddress (virtualAddress : UInt64) : Bool :=
  virtualAddress % pageSize ≠ 0
    || !userMappings.any fun mapping => mapping.virtualAddress = virtualAddress

/-- `AddressSpaceOwner::mapping_token`. -/
def mappingToken (owner : AddressSpaceOwner) (virtualAddress : UInt64) :
    Except OwnerError MappingToken :=
  if owner.generationLive = false ∨ owner.state = .dead then .error .staleOwner
  else if invalidTokenAddress virtualAddress then .error .invalidTokenAddress
  else .ok ⟨owner.generation, virtualAddress⟩

/-- `AddressSpaceOwner::validate_token`. -/
def validateToken (owner : AddressSpaceOwner) (token : MappingToken) : Except OwnerError Unit :=
  if owner.generationLive = false ∨ owner.state = .dead then .error .staleOwner
  else if token.generation ≠ owner.generation then .error .staleToken
  else if invalidTokenAddress token.virtualAddress then .error .invalidTokenAddress
  else .ok ()

end AddressSpaceOwner

end MakopaVerified.AddressSpace
