import MakopaVerified.AddressSpace.Owner

/-!
# Building and tearing down address spaces

`crates/address-space`: `construct_address_space`, `construct_address_space_pair` and
`teardown_checked`, over a backend about which nothing is known: each of its operations may do
anything to its own state and may fail at any call. A failed `expect` is an end of its own.
-/

namespace MakopaVerified.AddressSpace

open Foundation

/-- The trait `AddressSpaceBackend`, with the state `σ` and the errors `ε` of the implementation. -/
structure AddressSpaceBackend (σ ε : Type) where
  allocateFrame : FrameRole → Method σ ε UInt64
  prepareFrame : (generation : UInt64) → FrameRole → (frame : UInt64) → Method σ ε Unit
  installLink : LinkSpec → (parent child : UInt64) → Method σ ε Unit
  removeLink : LinkSpec → (parent child : UInt64) → Method σ ε Unit
  clearSharedEntries : (root : UInt64) → Method σ ε Unit
  clearTemporaryWindow : Method σ ε Unit
  verifyUnreachable : List OwnedFrame → Method σ ε Unit
  returnFrame : OwnedFrame → Method σ ε Unit

/-- How a function ends without a value: in a panic, or with an error. -/
inductive Stop (ε : Type) where
  | panicked
  | failed (e : ε)
  deriving DecidableEq

inductive BuildCause (ε : Type) where
  | backend (e : ε)
  | owner (e : OwnerError)
  deriving DecidableEq

structure BuildFailure (ε : Type) where
  cause : BuildCause ε
  rollbackError : Option ε
  retained : FrameLedger
  deriving DecidableEq

structure TeardownFailure (ε : Type) where
  error : ε
  owner : AddressSpaceOwner
  deriving DecidableEq

inductive CheckedTeardownFailure (ε : Type) where
  | owner (error : OwnerError) (owner : AddressSpaceOwner)
  | backend (failure : TeardownFailure ε)
  deriving DecidableEq

structure AddressSpacePair where
  first : AddressSpaceOwner
  second : AddressSpaceOwner

inductive PairBuildFailure (ε : Type) where
  | first (failure : BuildFailure ε)
  | second (second : BuildFailure ε) (firstTeardown : Option (CheckedTeardownFailure ε))

section

variable {σ ε α : Type} (B : AddressSpaceBackend σ ε)

/-! ## What rollback and teardown share -/

/-- A call of the backend from a function that also holds the owner. -/
def onBackend (m : Method σ ε α) : Method (AddressSpaceOwner × σ) (Stop ε) α :=
  Method.onPart Prod.snd (fun backend s => (s.1, backend)) .failed m

/-- `owner.ledger.frame_for(role).expect(..)`. -/
def expectFrame (role : FrameRole) : Method (AddressSpaceOwner × σ) (Stop ε) UInt64 :=
  Method.query fun s =>
    match s.1.ledger.frameFor role with
    | some frame => .ok frame
    | none => .error .panicked

/-- `for link in links { .. backend.remove_link(link, parent, child)?; }`. -/
def removeLinks : List LinkSpec → Method (AddressSpaceOwner × σ) (Stop ε) Unit
  | [] => pure ()
  | link :: links => do
    let parent ← expectFrame link.parent
    let child ← expectFrame link.child
    onBackend (B.removeLink link parent child)
    removeLinks links

/-- The loop that returns the frames from the last to the first, with the passes that are left. -/
def returnFrames : Nat → Method (AddressSpaceOwner × σ) (Stop ε) Unit
  | 0 => pure ()
  | passes + 1 => do
    let s ← Method.self
    match s.1.ledger.frames.getLast? with
    | none => pure ()
    | some frame => do
      onBackend (B.returnFrame frame)
      Method.update fun s => ({ s.1 with ledger := s.1.ledger.pop }, s.2)
      returnFrames passes

/-- The calls after the links are gone: the temporary window, the check and the frames. -/
def releaseFrames : Method (AddressSpaceOwner × σ) (Stop ε) Unit := do
  onBackend B.clearTemporaryWindow
  let s ← Method.self
  onBackend (B.verifyUnreachable s.1.ledger.frames)
  returnFrames B s.1.ledger.frames.length

/-! ## `construct_address_space` -/

/-- `rollback_owned_frames`. -/
def rollbackOwnedFrames (installedLinks : Nat) :
    Method (AddressSpaceOwner × σ) (Stop ε) Unit := do
  removeLinks B (buildLinks.take installedLinks).reverse
  let s ← Method.self
  match s.1.ledger.frameFor .root with
  | some root => onBackend (B.clearSharedEntries root)
  | none => pure ()
  releaseFrames B
  Method.update fun s => ({ s.1 with generationLive := false, root := none, state := .dead }, s.2)

/-- The local variables of `construct_address_space`, and the backend. -/
structure BuildState (σ : Type) where
  owner : AddressSpaceOwner
  installedLinks : Nat
  backend : σ

/-- The end of `rollback_build`: the failure has the cause, the error of the rollback if there was
one, and the ledger that the rollback left. -/
def rollbackResult (cause : BuildCause ε) (installedLinks : Nat) :
    Except (Stop ε) Unit × (AddressSpaceOwner × σ) →
      Except (Stop (BuildFailure ε)) α × BuildState σ
  | (.error .panicked, (owner, backend)) => (.error .panicked, ⟨owner, installedLinks, backend⟩)
  | (.error (.failed e), (owner, backend)) =>
    (.error (.failed ⟨cause, some e, owner.ledger⟩), ⟨owner, installedLinks, backend⟩)
  | (.ok _, (owner, backend)) =>
    (.error (.failed ⟨cause, none, owner.ledger⟩), ⟨owner, installedLinks, backend⟩)

/-- `return Err(rollback_build(cause, &mut owner, installed_links, backend))`. -/
def rollbackBuild (cause : BuildCause ε) : Method (BuildState σ) (Stop (BuildFailure ε)) α :=
  fun s => rollbackResult cause s.installedLinks
    ((rollbackOwnedFrames B s.installedLinks).run (s.owner, s.backend))

/-- `match backend.call() { Ok(value) => value, Err(error) => return Err(rollback_build(..)) }`. -/
def backendOrRollback (m : Method σ ε α) : Method (BuildState σ) (Stop (BuildFailure ε)) α := do
  let result ← Method.onPart (·.backend) (fun backend s => { s with backend := backend })
    Stop.failed (Method.attempt m)
  match result with
  | .ok a => pure a
  | .error e => rollbackBuild B (.backend e)

/-- `if let Err(error) = owner.call() { return Err(rollback_build(..)); }`. -/
def ownerOrRollback (m : Method AddressSpaceOwner OwnerError Unit) :
    Method (BuildState σ) (Stop (BuildFailure ε)) Unit := do
  let result ← Method.onPart (·.owner) (fun owner s => { s with owner := owner })
    Stop.failed (Method.attempt m)
  match result with
  | .ok () => pure ()
  | .error e => rollbackBuild B (.owner e)

/-- `owner.ledger.frame_for(role).expect(..)` in `construct_address_space`. -/
def expectBuilt (role : FrameRole) : Method (BuildState σ) (Stop (BuildFailure ε)) UInt64 :=
  Method.query fun s =>
    match s.owner.ledger.frameFor role with
    | some frame => .ok frame
    | none => .error .panicked

/-- The loop over `FrameRole::ALL`. -/
def allocateRoles (generation : UInt64) :
    List FrameRole → Method (BuildState σ) (Stop (BuildFailure ε)) Unit
  | [] => pure ()
  | role :: roles => do
    let frame ← backendOrRollback B (B.allocateFrame role)
    ownerOrRollback B (AddressSpaceOwner.recordFrame ⟨role, frame⟩)
    backendOrRollback B (B.prepareFrame generation role frame)
    allocateRoles generation roles

/-- The loop over `BUILD_LINKS`. -/
def installLinks : List LinkSpec → Method (BuildState σ) (Stop (BuildFailure ε)) Unit
  | [] => pure ()
  | link :: links => do
    let parent ← expectBuilt link.parent
    let child ← expectBuilt link.child
    backendOrRollback B (B.installLink link parent child)
    Method.update fun s => { s with installedLinks := s.installedLinks + 1 }
    installLinks links

/-- `construct_address_space` after `AddressSpaceOwner::begin`. -/
def buildOwner (generation : UInt64) : Method (BuildState σ) (Stop (BuildFailure ε)) Unit := do
  allocateRoles B generation FrameRole.all
  installLinks B buildLinks
  let root ← expectBuilt .root
  ownerOrRollback B (AddressSpaceOwner.publish root)

/-- The end of `construct_address_space`: the local variables go, but for the owner on success. -/
def constructResult : Except (Stop (BuildFailure ε)) Unit × BuildState σ →
    Except (Stop (BuildFailure ε)) AddressSpaceOwner × σ
  | (.ok _, s) => (.ok s.owner, s.backend)
  | (.error e, s) => (.error e, s.backend)

/-- `construct_address_space`. -/
def constructAddressSpace (generation : UInt64) :
    Method σ (Stop (BuildFailure ε)) AddressSpaceOwner := fun backend =>
  match AddressSpaceOwner.begin generation with
  | .error e => (.error (.failed ⟨.owner e, none, .new⟩), backend)
  | .ok owner => constructResult ((buildOwner B generation).run ⟨owner, 0, backend⟩)

/-! ## `teardown_checked` -/

/-- `teardown_inactive`. -/
def teardownInactive : Method (AddressSpaceOwner × σ) (Stop ε) Unit := do
  removeLinks B buildLinks.reverse
  let root ← expectFrame .root
  onBackend (B.clearSharedEntries root)
  releaseFrames B

/-- The end of `teardown_address_space`. -/
def teardownResult : Except (Stop ε) Unit × (AddressSpaceOwner × σ) →
    Except (Stop (TeardownFailure ε)) AddressSpaceOwner × σ
  | (.error .panicked, (_, backend)) => (.error .panicked, backend)
  | (.error (.failed e), (owner, backend)) => (.error (.failed ⟨e, owner⟩), backend)
  | (.ok _, (owner, backend)) => (.ok { owner with root := none, state := .dead }, backend)

/-- `teardown_address_space`. -/
def teardownAddressSpace (owner : AddressSpaceOwner) :
    Method σ (Stop (TeardownFailure ε)) AddressSpaceOwner := fun backend =>
  teardownResult ((teardownInactive B).run ({ owner with generationLive := false }, backend))

/-- `Stop` with another error. -/
def Stop.map {ε' : Type} (f : ε → ε') : Stop ε → Stop ε'
  | .panicked => .panicked
  | .failed e => .failed (f e)

/-- `teardown_checked`. -/
def teardownChecked (owner : AddressSpaceOwner) :
    Method σ (Stop (CheckedTeardownFailure ε)) AddressSpaceOwner :=
  if owner.state ≠ .inactive ∨ owner.generationLive = false then
    Method.fail (.failed (.owner .wrongState owner))
  else
    Method.onPart id (fun backend _ => backend) (Stop.map .backend) (teardownAddressSpace B owner)

/-! ## `construct_address_space_pair` -/

/-- `construct_address_space_pair`. -/
def constructAddressSpacePair (firstGeneration secondGeneration : UInt64) :
    Method σ (Stop (PairBuildFailure ε)) AddressSpacePair := do
  let first ← Method.onPart id (fun backend _ => backend) (Stop.map .first)
    (constructAddressSpace B firstGeneration)
  let result ← Method.attempt (constructAddressSpace B secondGeneration)
  match result with
  | .ok second => pure ⟨first, second⟩
  | .error .panicked => Method.fail .panicked
  | .error (.failed second) => do
    let teardown ← Method.attempt (teardownChecked B first)
    match teardown with
    | .ok _ => Method.fail (.failed (.second second none))
    | .error .panicked => Method.fail .panicked
    | .error (.failed failure) => Method.fail (.failed (.second second (some failure)))

end

end MakopaVerified.AddressSpace
