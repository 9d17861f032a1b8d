import MakopaVerified.AddressSpace.Build
import MakopaVerified.Foundation.Plans
import MakopaVerified.Foundation.Runs

/-!
# Address spaces and the calls made for them

The calls on the backend are logged, and the log is kept apart for each address space. A system of
address spaces builds them, lets them run and tears them down, in any order and over any backend.
`unwinding` is the order in which the calls of a rollback or a teardown have to be made.
-/

namespace MakopaVerified.AddressSpace

open Foundation

/-- A call on the backend with its result. -/
inductive Call (ε : Type) where
  | allocateFrame (role : FrameRole) (result : Except ε UInt64)
  | prepareFrame (generation : UInt64) (role : FrameRole) (frame : UInt64)
      (result : Except ε Unit)
  | installLink (link : LinkSpec) (parent child : UInt64) (result : Except ε Unit)
  | removeLink (link : LinkSpec) (parent child : UInt64) (result : Except ε Unit)
  | clearSharedEntries (root : UInt64) (result : Except ε Unit)
  | clearTemporaryWindow (result : Except ε Unit)
  | verifyUnreachable (frames : List OwnedFrame) (result : Except ε Unit)
  | returnFrame (frame : OwnedFrame) (result : Except ε Unit)

/-- The backend with a log of its calls. -/
def AddressSpaceBackend.logged {σ ε : Type} (B : AddressSpaceBackend σ ε) :
    AddressSpaceBackend (σ × List (Call ε)) ε where
  allocateFrame role := (B.allocateFrame role).logged (.allocateFrame role)
  prepareFrame generation role frame :=
    (B.prepareFrame generation role frame).logged (.prepareFrame generation role frame)
  installLink link parent child :=
    (B.installLink link parent child).logged (.installLink link parent child)
  removeLink link parent child :=
    (B.removeLink link parent child).logged (.removeLink link parent child)
  clearSharedEntries root := (B.clearSharedEntries root).logged (.clearSharedEntries root)
  clearTemporaryWindow := B.clearTemporaryWindow.logged .clearTemporaryWindow
  verifyUnreachable frames := (B.verifyUnreachable frames).logged (.verifyUnreachable frames)
  returnFrame frame := (B.returnFrame frame).logged (.returnFrame frame)

/-- A link with the frames at its two ends. -/
structure InstalledLink where
  link : LinkSpec
  parent : UInt64
  child : UInt64
  deriving DecidableEq, Repr

section

variable {ε : Type}

/-- The frame that a call obtained. -/
def Call.allocated : Call ε → Option OwnedFrame
  | .allocateFrame role (.ok frame) => some ⟨role, frame⟩
  | _ => none

/-- The link that a call installed. -/
def Call.installed : Call ε → Option InstalledLink
  | .installLink link parent child (.ok ()) => some ⟨link, parent, child⟩
  | _ => none

/-- The frame that the backend took back in a call. -/
def Call.returned : Call ε → Option OwnedFrame
  | .returnFrame frame (.ok ()) => some frame
  | _ => none

/-- The call is one of the three that build an address space. -/
def Call.Builds : Call ε → Prop
  | .allocateFrame .. => True
  | .prepareFrame .. => True
  | .installLink .. => True
  | _ => False

/-- The frames obtained, in the order of the calls. -/
def allocatedFrames (calls : List (Call ε)) : List OwnedFrame := calls.filterMap Call.allocated

/-- The links installed, in the order of the calls. -/
def installedLinks (calls : List (Call ε)) : List InstalledLink := calls.filterMap Call.installed

/-- The frames taken back, in the order of the calls. -/
def returnedFrames (calls : List (Call ε)) : List OwnedFrame := calls.filterMap Call.returned

/-- The calls that take the links and the frames of an address space back: the links from the last
to the first, the shared entries of the root if there is one, the temporary window, the check on all
frames, and the frames from the last to the first. -/
def unwinding (frames : List OwnedFrame) (links : List InstalledLink) :
    List (Except ε Unit → Call ε) :=
  links.reverse.map (fun l => Call.removeLink l.link l.parent l.child) ++
    ((FrameLedger.frameFor ⟨frames⟩ .root).toList.map Call.clearSharedEntries ++
      (Call.clearTemporaryWindow :: Call.verifyUnreachable frames ::
        frames.reverse.map Call.returnFrame))

/-- The calls for one address space, first to last: it is built, and what was built is then taken
back in the order of `unwinding`, up to the first call that fails. -/
def Orderly (calls : List (Call ε)) : Prop :=
  ∃ build unwind, calls = build ++ unwind ∧ (∀ c ∈ build, c.Builds) ∧
    (unwind = [] ∨
      ∃ r, Follows (unwinding (allocatedFrames build) (installedLinks build)) unwind r)

/-- What the caller holds of an address space: its owner, or the ledger of a failure. -/
inductive Holding where
  | owner (owner : AddressSpaceOwner)
  | retained (ledger : FrameLedger)

/-- The frames that the caller holds. -/
def Holding.frames : Holding → List OwnedFrame
  | .owner o => o.ledger.frames
  | .retained ledger => ledger.frames

/-- An address space: the calls made for it, and what the caller holds of it. -/
structure Space (ε : Type) where
  calls : List (Call ε)
  holding : Holding

/-- The backend and the address spaces that were ever begun. -/
structure Spaces (σ ε : Type) where
  backend : σ
  spaces : List (Space ε)

/-- The caller holds `owner` of the address space in the place `index`. -/
def Spaces.Owns {σ : Type} (w : Spaces σ ε) (index : Nat) (owner : AddressSpaceOwner) : Prop :=
  ∃ calls, w.spaces[index]? = some ⟨calls, .owner owner⟩

end

inductive SpaceEvent where
  | construct (generation : UInt64)
  | constructPair (firstGeneration secondGeneration : UInt64)
  | teardown (index : Nat)
  | activate (index : Nat)
  | recover (index : Nat)
  | mappingToken (index : Nat) (virtualAddress : UInt64)
  | validateToken (index : Nat) (token : MappingToken)

/-- The owner that a failed teardown hands back. -/
def CheckedTeardownFailure.handedBack {ε : Type} :
    CheckedTeardownFailure ε → AddressSpaceOwner
  | .owner _ o => o
  | .backend failure => failure.owner

section

variable {σ ε : Type} (B : AddressSpaceBackend σ ε)

/-- How the calls of `construct_address_space_pair` are made for its two address spaces: those of the
first construction for the first, those of the second construction for the second, and those of the
teardown for the first again. A first address space that was torn down leaves nothing to hold. -/
inductive PairSpaces (firstGeneration secondGeneration : UInt64) (backend : σ) :
    Except (Stop (PairBuildFailure ε)) AddressSpacePair → σ × List (Call ε) →
      List (Space ε) → Prop where
  | firstFailed {failure : BuildFailure ε} {backend₁ : σ} {calls₁ : List (Call ε)} :
      (constructAddressSpace B.logged firstGeneration).run (backend, []) =
        (.error (.failed failure), (backend₁, calls₁)) →
      PairSpaces firstGeneration secondGeneration backend (.error (.failed (.first failure)))
        (backend₁, calls₁) [⟨calls₁, .retained failure.retained⟩]
  | both {first second : AddressSpaceOwner} {backend₁ backend₂ : σ}
      {calls₁ calls₂ : List (Call ε)} :
      (constructAddressSpace B.logged firstGeneration).run (backend, []) =
        (.ok first, (backend₁, calls₁)) →
      (constructAddressSpace B.logged secondGeneration).run (backend₁, calls₁) =
        (.ok second, (backend₂, calls₁ ++ calls₂)) →
      PairSpaces firstGeneration secondGeneration backend (.ok ⟨first, second⟩)
        (backend₂, calls₁ ++ calls₂) [⟨calls₁, .owner first⟩, ⟨calls₂, .owner second⟩]
  | tornDown {first dead : AddressSpaceOwner} {failure : BuildFailure ε}
      {backend₁ backend₂ backend₃ : σ} {calls₁ calls₂ calls₃ : List (Call ε)} :
      (constructAddressSpace B.logged firstGeneration).run (backend, []) =
        (.ok first, (backend₁, calls₁)) →
      (constructAddressSpace B.logged secondGeneration).run (backend₁, calls₁) =
        (.error (.failed failure), (backend₂, calls₁ ++ calls₂)) →
      (teardownChecked B.logged first).run (backend₂, calls₁ ++ calls₂) =
        (.ok dead, (backend₃, (calls₁ ++ calls₂) ++ calls₃)) →
      PairSpaces firstGeneration secondGeneration backend (.error (.failed (.second failure none)))
        (backend₃, (calls₁ ++ calls₂) ++ calls₃)
        [⟨calls₁ ++ calls₃, .retained .new⟩, ⟨calls₂, .retained failure.retained⟩]
  | stuck {first : AddressSpaceOwner} {failure : BuildFailure ε}
      {teardownFailure : CheckedTeardownFailure ε} {backend₁ backend₂ backend₃ : σ}
      {calls₁ calls₂ calls₃ : List (Call ε)} :
      (constructAddressSpace B.logged firstGeneration).run (backend, []) =
        (.ok first, (backend₁, calls₁)) →
      (constructAddressSpace B.logged secondGeneration).run (backend₁, calls₁) =
        (.error (.failed failure), (backend₂, calls₁ ++ calls₂)) →
      (teardownChecked B.logged first).run (backend₂, calls₁ ++ calls₂) =
        (.error (.failed teardownFailure), (backend₃, (calls₁ ++ calls₂) ++ calls₃)) →
      PairSpaces firstGeneration secondGeneration backend
        (.error (.failed (.second failure (some teardownFailure))))
        (backend₃, (calls₁ ++ calls₂) ++ calls₃)
        [⟨calls₁ ++ calls₃, .owner teardownFailure.handedBack⟩,
          ⟨calls₂, .retained failure.retained⟩]

inductive Spaces.Step : Spaces σ ε → SpaceEvent → Spaces σ ε → Prop where
  | constructed {w : Spaces σ ε} {generation : UInt64} {owner : AddressSpaceOwner} {backend : σ}
      {calls : List (Call ε)} :
      (constructAddressSpace B.logged generation).run (w.backend, []) =
        (.ok owner, (backend, calls)) →
      Step w (.construct generation) ⟨backend, w.spaces ++ [⟨calls, .owner owner⟩]⟩
  | constructFailed {w : Spaces σ ε} {generation : UInt64} {failure : BuildFailure ε}
      {backend : σ} {calls : List (Call ε)} :
      (constructAddressSpace B.logged generation).run (w.backend, []) =
        (.error (.failed failure), (backend, calls)) →
      Step w (.construct generation)
        ⟨backend, w.spaces ++ [⟨calls, .retained failure.retained⟩]⟩
  | paired {w : Spaces σ ε} {firstGeneration secondGeneration : UInt64}
      {result : Except (Stop (PairBuildFailure ε)) AddressSpacePair} {backend : σ}
      {calls : List (Call ε)} {new : List (Space ε)} :
      (constructAddressSpacePair B.logged firstGeneration secondGeneration).run (w.backend, []) =
        (result, (backend, calls)) →
      PairSpaces B firstGeneration secondGeneration w.backend result (backend, calls) new →
      Step w (.constructPair firstGeneration secondGeneration) ⟨backend, w.spaces ++ new⟩
  | tornDown {w : Spaces σ ε} {before after : List (Space ε)} {owner dead : AddressSpaceOwner}
      {earlier calls : List (Call ε)} {backend : σ} :
      w.spaces = before ++ ⟨earlier, .owner owner⟩ :: after →
      (teardownChecked B.logged owner).run (w.backend, []) = (.ok dead, (backend, calls)) →
      Step w (.teardown before.length)
        ⟨backend, before ++ ⟨earlier ++ calls, .owner dead⟩ :: after⟩
  | teardownFailed {w : Spaces σ ε} {before after : List (Space ε)} {owner : AddressSpaceOwner}
      {failure : CheckedTeardownFailure ε} {earlier calls : List (Call ε)} {backend : σ} :
      w.spaces = before ++ ⟨earlier, .owner owner⟩ :: after →
      (teardownChecked B.logged owner).run (w.backend, []) =
        (.error (.failed failure), (backend, calls)) →
      Step w (.teardown before.length)
        ⟨backend, before ++ ⟨earlier ++ calls, .owner failure.handedBack⟩ :: after⟩
  | activated {w : Spaces σ ε} {before after : List (Space ε)} {owner owner' : AddressSpaceOwner}
      {calls : List (Call ε)} {result : Except OwnerError Unit} :
      w.spaces = before ++ ⟨calls, .owner owner⟩ :: after →
      AddressSpaceOwner.activate.run owner = (result, owner') →
      Step w (.activate before.length)
        ⟨w.backend, before ++ ⟨calls, .owner owner'⟩ :: after⟩
  | recovered {w : Spaces σ ε} {before after : List (Space ε)} {owner owner' : AddressSpaceOwner}
      {calls : List (Call ε)} {result : Except OwnerError Unit} :
      w.spaces = before ++ ⟨calls, .owner owner⟩ :: after →
      AddressSpaceOwner.recover.run owner = (result, owner') →
      Step w (.recover before.length)
        ⟨w.backend, before ++ ⟨calls, .owner owner'⟩ :: after⟩
  | tokenAsked {w : Spaces σ ε} {before after : List (Space ε)} {owner : AddressSpaceOwner}
      {calls : List (Call ε)} {virtualAddress : UInt64} :
      w.spaces = before ++ ⟨calls, .owner owner⟩ :: after →
      Step w (.mappingToken before.length virtualAddress) w
  | tokenValidated {w : Spaces σ ε} {before after : List (Space ε)} {owner : AddressSpaceOwner}
      {calls : List (Call ε)} {token : MappingToken} :
      w.spaces = before ++ ⟨calls, .owner owner⟩ :: after →
      Step w (.validateToken before.length token) w

/-- Address spaces over the backend `B`, from any state of it on. -/
def spaceSystem : System (Spaces σ ε) SpaceEvent where
  init w := w.spaces = []
  step := Spaces.Step B

end

end MakopaVerified.AddressSpace
