import MakopaVerified.TaskRuntime.Types

/-!
# The run queue, the endpoint, the launch manifest and the approval broker

The plain state that `Runtime` is made of besides its two task slots.
-/

namespace MakopaVerified.TaskRuntime

open Foundation

/-! ## Run queue -/

/-- `RunQueue`: the first `len` entries are the queued tasks, head first. -/
structure RunQueue where
  entries : Vector UInt64 taskCount
  len : Nat
  deriving DecidableEq, Repr

namespace RunQueue

/-- `RunQueue::new`. -/
def new : RunQueue := { entries := Vector.replicate taskCount 0, len := 0 }

/-- `RunQueue::contains`. -/
def contains (q : RunQueue) (task : UInt64) : Bool := (q.entries.toList.take q.len).contains task

/-- `RunQueue::push`. -/
def push (task : UInt64) : Method RunQueue RuntimeError Unit := do
  let q ← Method.self
  if q.contains task then Method.fail .duplicateQueueMember
  else if q.len = taskCount then Method.fail .queueFull
  else
    Method.update fun q =>
      { entries := q.entries.setIfInBounds q.len task, len := q.len + 1 }

/-- The loop of `RunQueue::pop` that moves every later entry one place forward. -/
def shiftDown (entries : Vector UInt64 taskCount) (len : Nat) : Vector UInt64 taskCount :=
  (List.range' 1 (len - 1)).foldl
    (fun es index => es.setIfInBounds (index - 1) (es[index]?.getD 0)) entries

/-- `RunQueue::pop`. -/
def pop (q : RunQueue) : Option UInt64 × RunQueue :=
  if q.len = 0 then (none, q)
  else
    (some q.entries[0],
      { entries := (shiftDown q.entries q.len).setIfInBounds (q.len - 1) 0, len := q.len - 1 })

end RunQueue

/-! ## Endpoint -/

/-- `EndpointSnapshot`: the one inline-message slot and the two task sides bound to it. -/
structure Endpoint where
  objectGeneration : UInt64
  senderTask : UInt64
  senderGeneration : UInt64
  receiverTask : UInt64
  receiverGeneration : UInt64
  occupied : Bool
  payload : UInt64
  deriving DecidableEq, Repr

/-- The all-zero endpoint. -/
def Endpoint.empty : Endpoint where
  objectGeneration := 0
  senderTask := 0
  senderGeneration := 0
  receiverTask := 0
  receiverGeneration := 0
  occupied := false
  payload := 0

/-! ## Launch manifest -/

/-- `LaunchRouteV1`. -/
structure LaunchRoute where
  objectType : UInt32
  reserved : UInt32
  objectId : UInt64
  objectGeneration : UInt64
  rights : UInt64
  deriving DecidableEq, Repr

/-- `LaunchRouteV1::default()`. -/
def LaunchRoute.zero : LaunchRoute where
  objectType := 0
  reserved := 0
  objectId := 0
  objectGeneration := 0
  rights := 0

/-- `LaunchManifestV1`. -/
structure LaunchManifest where
  schemaVersion : UInt32
  byteSize : UInt32
  manifestId : UInt64
  principalId : UInt64
  targetTaskId : UInt64
  targetGeneration : UInt64
  imageId : UInt64
  routeCount : UInt32
  reserved : UInt32
  routes : Vector LaunchRoute manifestRouteCountMax
  deriving DecidableEq, Repr

/-- `REGISTERED_LAUNCH_MANIFEST`. -/
def registeredLaunchManifest : LaunchManifest where
  schemaVersion := manifestSchemaVersion
  byteSize := manifestByteSize
  manifestId := manifestId
  principalId := principalId
  targetTaskId := receiverTaskId
  targetGeneration := workloadGeneration
  imageId := workloadImageId
  routeCount := 1
  reserved := 0
  routes := #v[
    { objectType := objectTypeApprovalBroker
      reserved := 0
      objectId := approvalBrokerObjectId
      objectGeneration := fixedObjectGeneration
      rights := capabilityRightSubmitApproval },
    LaunchRoute.zero, LaunchRoute.zero, LaunchRoute.zero]

inductive ManifestError where
  | invalidHeader | invalidIdentity | invalidTarget | excessRoutes | missingRoute | invalidRoute
  | duplicateRoute | insufficientCapacity | nonzeroUnusedRoute
  deriving DecidableEq, Repr

namespace LaunchManifest

/-- The route loop of `LaunchManifestV1::validate`: `earlier` are the routes already passed. -/
def checkRoutes (brokerGeneration : UInt64) :
    List LaunchRoute → List LaunchRoute → Except ManifestError Unit
  | _, [] => .ok ()
  | earlier, route :: rest =>
    if route.reserved ≠ 0 ∨ route.objectType ≠ objectTypeApprovalBroker
        ∨ route.objectId ≠ approvalBrokerObjectId ∨ route.objectGeneration ≠ brokerGeneration
        ∨ brokerGeneration ≠ fixedObjectGeneration
        ∨ route.rights ≠ capabilityRightSubmitApproval then
      .error .invalidRoute
    else if earlier.any fun e => e.objectType = route.objectType ∧ e.objectId = route.objectId
        ∧ e.objectGeneration = route.objectGeneration then
      .error .duplicateRoute
    else checkRoutes brokerGeneration (earlier ++ [route]) rest

/-- `LaunchManifestV1::validate`. -/
def validate (m : LaunchManifest) (workloadGen brokerGeneration : UInt64) (availableSlots : Nat) :
    Except ManifestError Unit :=
  if m.schemaVersion ≠ manifestSchemaVersion ∨ m.byteSize ≠ manifestByteSize ∨ m.reserved ≠ 0 then
    .error .invalidHeader
  else if m.manifestId ≠ TaskRuntime.manifestId ∨ m.principalId ≠ TaskRuntime.principalId
      ∨ m.imageId ≠ workloadImageId ∨ m.manifestId = 0 ∨ m.principalId = 0 ∨ m.imageId = 0 then
    .error .invalidIdentity
  else if m.targetTaskId ≠ receiverTaskId ∨ m.targetGeneration ≠ workloadGen
      ∨ workloadGen ≠ workloadGeneration then
    .error .invalidTarget
  else if m.routeCount.toNat > manifestRouteCountMax then .error .excessRoutes
  else if m.routeCount.toNat = 0 then .error .missingRoute
  else if availableSlots < m.routeCount.toNat then .error .insufficientCapacity
  else do
    checkRoutes brokerGeneration [] (m.routes.toList.take m.routeCount.toNat)
    if (m.routes.toList.drop m.routeCount.toNat).any (· ≠ LaunchRoute.zero) then
      .error .nonzeroUnusedRoute
    else .ok ()

end LaunchManifest

/-- `ManifestPublication`. -/
structure ManifestPublication where
  manifestId : UInt64
  principalId : UInt64
  targetTaskId : UInt64
  targetGeneration : UInt64
  imageId : UInt64
  published : Bool
  deriving DecidableEq, Repr

/-- `ManifestPublication::EMPTY`. -/
def ManifestPublication.empty : ManifestPublication where
  manifestId := 0
  principalId := 0
  targetTaskId := 0
  targetGeneration := 0
  imageId := 0
  published := false

/-- The publication that a launch writes. -/
def ManifestPublication.registered : ManifestPublication where
  manifestId := TaskRuntime.manifestId
  principalId := TaskRuntime.principalId
  targetTaskId := receiverTaskId
  targetGeneration := workloadGeneration
  imageId := workloadImageId
  published := true

/-! ## Approval broker and synthetic effect -/

/-- `ApprovalRequestV1`. -/
structure ApprovalRequest where
  principalId : UInt64
  workloadTaskId : UInt64
  workloadGeneration : UInt64
  sequence : UInt64
  actionId : UInt64
  effectObjectId : UInt64
  effectObjectGeneration : UInt64
  argument : UInt64
  requestedRights : UInt64
  resultingRights : UInt64
  deriving DecidableEq, Repr

/-- `ApprovalRequestV1::default()`. -/
def ApprovalRequest.zero : ApprovalRequest where
  principalId := 0
  workloadTaskId := 0
  workloadGeneration := 0
  sequence := 0
  actionId := 0
  effectObjectId := 0
  effectObjectGeneration := 0
  argument := 0
  requestedRights := 0
  resultingRights := 0

/-- The canonical request of `submit_approval`: everything but the sequence and the argument comes
from the fixed registries. -/
def ApprovalRequest.canonical (sequence argument : UInt64) : ApprovalRequest where
  principalId := TaskRuntime.principalId
  workloadTaskId := receiverTaskId
  workloadGeneration := TaskRuntime.workloadGeneration
  sequence := sequence
  actionId := approvalActionIdCommitSyntheticValue
  effectObjectId := testEffectObjectId
  effectObjectGeneration := fixedObjectGeneration
  argument := argument
  requestedRights := capabilityRightCommitEffect
  resultingRights := 0

inductive ApprovalBrokerState where
  | building | empty | pending | approved | closing | dead
  deriving DecidableEq, Repr

structure ApprovalBroker where
  state : ApprovalBrokerState
  objectGeneration : UInt64
  supervisorTaskId : UInt64
  supervisorGeneration : UInt64
  workloadTaskId : UInt64
  workloadGeneration : UInt64
  requestKind : UInt64
  request : ApprovalRequest
  requestPresent : Bool
  nextSequence : UInt64
  sequenceExhausted : Bool
  decisionEpoch : UInt64
  approvalEpoch : UInt64
  expiryEpoch : UInt64
  deriving DecidableEq, Repr

namespace ApprovalBroker

/-- `ApprovalBroker::DEAD`. -/
def dead : ApprovalBroker where
  state := .dead
  objectGeneration := 0
  supervisorTaskId := 0
  supervisorGeneration := 0
  workloadTaskId := 0
  workloadGeneration := 0
  requestKind := 0
  request := ApprovalRequest.zero
  requestPresent := false
  nextSequence := 0
  sequenceExhausted := false
  decisionEpoch := 0
  approvalEpoch := 0
  expiryEpoch := 0

/-- `ApprovalBroker::building`. -/
def building (supervisorGeneration workloadGeneration : UInt64) : ApprovalBroker where
  state := .building
  objectGeneration := fixedObjectGeneration
  supervisorTaskId := senderTaskId
  supervisorGeneration := supervisorGeneration
  workloadTaskId := receiverTaskId
  workloadGeneration := workloadGeneration
  requestKind := 0
  request := ApprovalRequest.zero
  requestPresent := false
  nextSequence := 1
  sequenceExhausted := false
  decisionEpoch := 1
  approvalEpoch := 0
  expiryEpoch := 0

/-- `ApprovalBroker::clear_request`. -/
def clearRequest (b : ApprovalBroker) : ApprovalBroker :=
  { b with
    requestKind := 0
    request := ApprovalRequest.zero
    requestPresent := false
    approvalEpoch := 0
    expiryEpoch := 0 }

/-- The assignments of an accepted `submit_approval`. -/
def submit (requestKind argument nextEpoch : UInt64) (b : ApprovalBroker) : ApprovalBroker :=
  { b with
    requestKind := requestKind
    request := ApprovalRequest.canonical b.nextSequence argument
    requestPresent := true
    state := .pending
    decisionEpoch := nextEpoch
    sequenceExhausted := if b.nextSequence = u64Max then true else b.sequenceExhausted
    nextSequence := if b.nextSequence = u64Max then b.nextSequence else b.nextSequence + 1 }

/-- The assignments of an accepted approval. -/
def approve (nextEpoch : UInt64) (b : ApprovalBroker) : ApprovalBroker :=
  { b with
    decisionEpoch := nextEpoch
    state := .approved
    approvalEpoch := nextEpoch
    expiryEpoch := nextEpoch + 1 }

/-- The assignments that end a request: the next epoch, no request, and the state `Empty`. -/
def conclude (nextEpoch : UInt64) (b : ApprovalBroker) : ApprovalBroker :=
  { clearRequest { b with decisionEpoch := nextEpoch } with state := .empty }

end ApprovalBroker

structure SyntheticEffect where
  objectGeneration : UInt64
  supervisorTaskId : UInt64
  supervisorGeneration : UInt64
  occupied : Bool
  value : UInt64
  deriving DecidableEq, Repr

/-- `SyntheticEffect::EMPTY`. -/
def SyntheticEffect.empty : SyntheticEffect where
  objectGeneration := 0
  supervisorTaskId := 0
  supervisorGeneration := 0
  occupied := false
  value := 0

end MakopaVerified.TaskRuntime
