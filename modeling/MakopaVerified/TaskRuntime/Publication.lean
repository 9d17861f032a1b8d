import MakopaVerified.TaskRuntime.Runtime

/-!
# Construction and initial publication

The constructors `Runtime::new` and `Runtime::new_supervised` and the publication steps behind
them. `failBeforeStep` is the source's fault-injection argument; the constructors pass `none`.
-/

namespace MakopaVerified.TaskRuntime

open Foundation

namespace Runtime

/-- A slot before publication. -/
def unpublishedSlot (id : UInt64) (state : TaskState) (context : TaskContext) : TaskSlot where
  id := id
  generation := context.generation
  state := state
  context := context
  capabilities := CapabilityTable.building id context.generation

/-- `Runtime::unpublished`. -/
def unpublished (sender receiver : TaskContext) : Runtime where
  profile := .cooperative
  task0 := unpublishedSlot senderTaskId .ready sender
  task1 := unpublishedSlot receiverTaskId .ready receiver
  queue := RunQueue.new
  endpoint := Endpoint.empty
  manifest := ManifestPublication.empty
  broker := ApprovalBroker.dead
  effect := SyntheticEffect.empty

/-- `Runtime::unpublished_supervised`. -/
def unpublishedSupervised (supervisor workload : TaskContext) : Runtime where
  profile := .supervised
  task0 := unpublishedSlot senderTaskId .ready supervisor
  task1 := unpublishedSlot receiverTaskId .staged workload
  queue := RunQueue.new
  endpoint := Endpoint.empty
  manifest := ManifestPublication.empty
  broker := ApprovalBroker.building supervisor.generation workload.generation
  effect :=
    { objectGeneration := fixedObjectGeneration
      supervisorTaskId := senderTaskId
      supervisorGeneration := supervisor.generation
      occupied := false
      value := 0 }

/-! ## Rollback -/

/-- What both rollbacks do to a slot. -/
def rollbackSlot (slot : TaskSlot) : TaskSlot :=
  { slot with
    state := .dead
    generation := 0
    context := TaskContext.clearDead
    capabilities := CapabilityTable.dead }

/-- `Runtime::rollback_publication`. -/
def rollbackPublication (installed : List (UInt64 × UInt64)) (rt : Runtime) : Runtime :=
  let rt := installed.reverse.foldl (fun rt (task, handle) =>
    mapSlot task
      (fun s => { s with capabilities := CapabilityTable.rollbackInstall handle s.capabilities }) rt)
    rt
  { rt with
    queue := RunQueue.new
    endpoint := Endpoint.empty
    manifest := ManifestPublication.empty
    broker := ApprovalBroker.dead
    effect := SyntheticEffect.empty
    task0 := rollbackSlot rt.task0
    task1 := rollbackSlot rt.task1 }

/-- `Runtime::rollback_supervisor_publication`. -/
def rollbackSupervisorPublication (installed : List UInt64) (rt : Runtime) : Runtime :=
  let rt := installed.reverse.foldl (fun rt handle =>
    mapSlot senderTaskId
      (fun s => { s with capabilities := CapabilityTable.rollbackInstall handle s.capabilities }) rt)
    rt
  { rt with
    queue := RunQueue.new
    manifest := ManifestPublication.empty
    broker := ApprovalBroker.dead
    effect := SyntheticEffect.empty
    task0 := rollbackSlot rt.task0
    task1 := rollbackSlot rt.task1 }

/-! ## Cooperative publication -/

/-- The installation loop of `Runtime::publish_initial`. -/
def installInitial (failBeforeStep : Option Nat) : List (UInt64 × UInt64) →
    List (Nat × UInt64 × UInt64) → Method Runtime RuntimeError (List (UInt64 × UInt64))
  | installed, [] => pure installed
  | installed, (step, task, rights) :: rest =>
    if failBeforeStep = some step then
      Method.undoing (rollbackPublication installed) (Method.fail .publicationFailure)
    else do
      let handle ← Method.undoing (rollbackPublication installed)
        (onTable task id (CapabilityTable.installBuilding rights))
      installInitial failBeforeStep (installed ++ [(task, handle)]) rest

/-- The entries that `Runtime::publish_initial` installs. -/
def initialGrants : List (Nat × UInt64 × UInt64) :=
  [(0, senderTaskId, capabilityRightSend ||| capabilityRightDuplicate),
    (1, receiverTaskId, capabilityRightReceive)]

/-- `Runtime::publish_initial`. -/
def publishInitial (failBeforeStep : Option Nat) : Method Runtime RuntimeError Unit := do
  let installed ← installInitial failBeforeStep [] initialGrants
  Method.undoing (rollbackPublication installed) do
    if failBeforeStep = some 2 then Method.fail .publicationFailure
    else do
      onTable senderTaskId id CapabilityTable.publish
      onTable receiverTaskId id CapabilityTable.publish
      Method.update fun rt =>
        { rt with
          endpoint :=
            { objectGeneration := endpointGeneration
              senderTask := senderTaskId
              senderGeneration := rt.task0.generation
              receiverTask := receiverTaskId
              receiverGeneration := rt.task1.generation
              occupied := false
              payload := 0 } }
      onQueue (RunQueue.push receiverTaskId)
      onQueue (RunQueue.push senderTaskId)
      Method.query validate

/-- `Runtime::construct`. -/
def construct (sender receiver : TaskContext) (failBeforeStep : Option Nat) :
    Except RuntimeError Runtime :=
  match (publishInitial failBeforeStep).run (unpublished sender receiver) with
  | (.ok (), rt) => .ok rt
  | (.error e, _) => .error e

/-- `Runtime::new`. -/
def new (sender receiver : TaskContext) : Except RuntimeError Runtime :=
  if sender.taskId ≠ senderTaskId ∨ receiver.taskId ≠ receiverTaskId then .error .invalidTask
  else if sender.generation = 0 ∨ receiver.generation = 0 then .error .invalidGeneration
  else if sender.generation = receiver.generation then .error .duplicateGeneration
  else construct sender receiver none

/-! ## Supervised publication -/

/-- The base installation loop shared by `Runtime::publish_supervisor` and
`JournaledRuntime::publish_supervisor`; `undo` is the rollback of the enclosing method. -/
def installSupervisor (failBeforeStep : Option Nat) (undo : List UInt64 → Runtime → Runtime) :
    List UInt64 → List (Nat × UInt32 × UInt64 × UInt64) →
      Method Runtime RuntimeError (List UInt64)
  | installed, [] => pure installed
  | installed, (step, objectType, objectId, rights) :: rest =>
    if failBeforeStep = some step then
      Method.undoing (undo installed) (Method.fail .publicationFailure)
    else do
      let handle ← Method.undoing (undo installed)
        (onTable senderTaskId id (CapabilityTable.installObjectBuilding objectType
          { id := objectId, generation := fixedObjectGeneration } rights))
      installSupervisor failBeforeStep undo (installed ++ [handle]) rest

/-- The entries that `Runtime::publish_supervisor` installs. -/
def supervisorGrants : List (Nat × UInt32 × UInt64 × UInt64) :=
  [(0, objectTypeTaskControl, taskControlObjectId, capabilityRightStart),
    (1, objectTypeApprovalBroker, approvalBrokerObjectId, capabilityRightDecideApproval),
    (2, objectTypeTestEffect, testEffectObjectId, capabilityRightCommitEffect)]

/-- `Runtime::publish_supervisor`. -/
def publishSupervisor (failBeforeStep : Option Nat) : Method Runtime RuntimeError Unit := do
  let installed ←
    installSupervisor failBeforeStep rollbackSupervisorPublication [] supervisorGrants
  Method.undoing (rollbackSupervisorPublication installed) do
    if failBeforeStep = some 3 then Method.fail .publicationFailure
    else do
      onTable senderTaskId id CapabilityTable.publish
      Method.update fun rt => { rt with broker := { rt.broker with state := .empty } }
      if failBeforeStep = some 4 then Method.fail .publicationFailure
      else do
        onQueue (RunQueue.push senderTaskId)
        Method.query validate

/-- `Runtime::construct_supervised`. -/
def constructSupervised (supervisor workload : TaskContext) (failBeforeStep : Option Nat) :
    Except RuntimeError Runtime :=
  match (publishSupervisor failBeforeStep).run (unpublishedSupervised supervisor workload) with
  | (.ok (), rt) => .ok rt
  | (.error e, _) => .error e

/-- `Runtime::new_supervised`. -/
def newSupervised (supervisor workload : TaskContext) : Except RuntimeError Runtime :=
  if supervisor.taskId ≠ senderTaskId ∨ workload.taskId ≠ receiverTaskId then .error .invalidTask
  else if supervisor.generation ≠ supervisorGeneration
      ∨ workload.generation ≠ workloadGeneration then
    .error .invalidGeneration
  else constructSupervised supervisor workload none

end Runtime

end MakopaVerified.TaskRuntime
