import MakopaVerified.TaskRuntime.Capability
import MakopaVerified.TaskRuntime.Broker

/-!
# The two-task runtime: slots, invariant check, dispatch and capture

`Runtime` of `crates/task-runtime` without its trap operations: access to the two task slots, the
invariant check `validate` with its two profile parts, and the two calls the kernel makes around a
trap, `dispatch_next` and `capture_trap`.
-/

namespace MakopaVerified.TaskRuntime

open Foundation

structure TaskSlot where
  id : UInt64
  generation : UInt64
  state : TaskState
  context : TaskContext
  capabilities : CapabilityTable
  deriving DecidableEq, Repr

/-- `Runtime`; the array `tasks` of two slots is `task0` and `task1`. -/
structure Runtime where
  profile : RuntimeProfile
  task0 : TaskSlot
  task1 : TaskSlot
  queue : RunQueue
  endpoint : Endpoint
  manifest : ManifestPublication
  broker : ApprovalBroker
  effect : SyntheticEffect
  deriving DecidableEq, Repr

namespace Runtime

/-- The array `tasks`, for the loops over it. -/
def tasks (rt : Runtime) : List TaskSlot := [rt.task0, rt.task1]

/-! ## Slot access -/

/-- `Runtime::slot`. -/
def slot (rt : Runtime) (task : UInt64) : Except RuntimeError TaskSlot :=
  if task = senderTaskId then .ok rt.task0
  else if task = receiverTaskId then .ok rt.task1
  else .error .invalidTask

/-- Replace a slot by its image under `f`; a task id without a slot changes nothing. -/
def mapSlot (task : UInt64) (f : TaskSlot → TaskSlot) (rt : Runtime) : Runtime :=
  if task = senderTaskId then { rt with task0 := f rt.task0 }
  else if task = receiverTaskId then { rt with task1 := f rt.task1 }
  else rt

/-- `Runtime::slot_mut` followed by an assignment through the reference. -/
def modifySlot (task : UInt64) (f : TaskSlot → TaskSlot) : Method Runtime RuntimeError Unit :=
  if task = senderTaskId ∨ task = receiverTaskId then Method.update (mapSlot task f)
  else Method.fail .invalidTask

/-- `Runtime::slot_mut` followed by a call on the slot's capability table. -/
def onTable {α ε : Type} (task : UInt64) (err : ε → RuntimeError)
    (m : Method CapabilityTable ε α) : Method Runtime RuntimeError α :=
  if task = senderTaskId then
    Method.onPart (·.task0.capabilities)
      (fun t rt => { rt with task0 := { rt.task0 with capabilities := t } }) err m
  else if task = receiverTaskId then
    Method.onPart (·.task1.capabilities)
      (fun t rt => { rt with task1 := { rt.task1 with capabilities := t } }) err m
  else Method.fail .invalidTask

/-- A call on the run queue. -/
def onQueue {α : Type} (m : Method RunQueue RuntimeError α) : Method Runtime RuntimeError α :=
  Method.onPart (·.queue) (fun q rt => { rt with queue := q }) id m

/-- `Runtime::state`. -/
def state (rt : Runtime) (task : UInt64) : Except RuntimeError TaskState :=
  (rt.slot task).map (·.state)

/-- `Runtime::generation`. -/
def generation (rt : Runtime) (task : UInt64) : Except RuntimeError UInt64 :=
  (rt.slot task).map (·.generation)

/-- `Runtime::context`. -/
def context (rt : Runtime) (task : UInt64) : Except RuntimeError TaskContext :=
  (rt.slot task).map (·.context)

/-- `self.slot_mut(task)?.state = state`. -/
def setState (task : UInt64) (state : TaskState) : Method Runtime RuntimeError Unit :=
  modifySlot task ({ · with state := state })

/-- `Runtime::set_result`. -/
def setResult (task : UInt64) (status : TrapStatus) (value : UInt64) :
    Method Runtime RuntimeError Unit :=
  modifySlot task fun s => { s with context := s.context.setResult status value }

/-! ## `validate` -/

/-- The queue part of `Runtime::validate` for the queued entries, in order. -/
def checkMembers : List UInt64 → Except RuntimeError Unit
  | [] => .ok ()
  | task :: rest =>
    if ¬ (task = senderTaskId ∨ task = receiverTaskId) ∨ rest.contains task then
      .error .duplicateQueueMember
    else checkMembers rest

/-- The queue part of `Runtime::validate`. -/
def checkQueue (q : RunQueue) : Except RuntimeError Unit :=
  if q.len > taskCount ∨ (q.entries.toList.drop q.len).any (· ≠ 0) then .error .invalidQueueMember
  else checkMembers (q.entries.toList.take q.len)

/-- The table state that `Runtime::validate` expects of a slot. -/
def expectedTableState (slot : TaskSlot) : Except RuntimeError CapabilityTableState :=
  match slot.state with
  | .staged => .ok .building
  | .ready | .running | .blockedReceive | .blockedApproval => .ok .live
  | .exited =>
    if slot.capabilities.state = .live ∨ slot.capabilities.state = .closing then
      .ok slot.capabilities.state
    else .error .capabilityInvariant
  | .dead => .ok .dead

/-- The per-slot part of `Runtime::validate`. -/
def checkSlot (q : RunQueue) (slot : TaskSlot) : Except RuntimeError Unit := do
  slot.capabilities.validate
  if (slot.state = .ready) ≠ (q.contains slot.id = true) then
    .error (if q.contains slot.id then .invalidQueueMember else .missingQueueMember)
  else if slot.state = .dead ∧ (slot.generation ≠ 0 ∨ slot.context.taskId ≠ 0
      ∨ slot.context.generation ≠ 0 ∨ slot.context.root ≠ 0
      ∨ slot.capabilities.state ≠ .dead) then
    .error .invalidGeneration
  else if slot.state ≠ .dead ∧ (slot.generation = 0 ∨ slot.context.taskId ≠ slot.id
      ∨ slot.context.generation ≠ slot.generation ∨ slot.context.root = 0
      ∨ slot.capabilities.taskId ≠ slot.id
      ∨ slot.capabilities.taskGeneration ≠ slot.generation) then
    .error .invalidGeneration
  else do
    let expected ← expectedTableState slot
    if slot.capabilities.state ≠ expected then .error .capabilityInvariant else .ok ()

/-- `Runtime::validate_cooperative`. -/
def validateCooperative (rt : Runtime) : Except RuntimeError Unit :=
  if (rt.tasks.any fun s => s.state = .staged ∨ s.state = .blockedApproval)
      ∨ rt.manifest ≠ ManifestPublication.empty ∨ rt.broker ≠ ApprovalBroker.dead
      ∨ rt.effect ≠ SyntheticEffect.empty then
    .error .capabilityInvariant
  else if rt.task0.capabilities.state = .live ∧ (rt.endpoint.senderTask ≠ rt.task0.id
      ∨ rt.endpoint.senderGeneration ≠ rt.task0.generation) then
    .error .endpointInvariant
  else if (rt.task0.capabilities.state = .closing ∨ rt.task0.capabilities.state = .dead)
      ∧ (rt.endpoint.senderTask ≠ 0 ∨ rt.endpoint.senderGeneration ≠ 0) then
    .error .endpointInvariant
  else if rt.task1.capabilities.state = .live ∧ (rt.endpoint.receiverTask ≠ rt.task1.id
      ∨ rt.endpoint.receiverGeneration ≠ rt.task1.generation) then
    .error .endpointInvariant
  else if (rt.task1.capabilities.state = .closing ∨ rt.task1.capabilities.state = .dead)
      ∧ (rt.endpoint.receiverTask ≠ 0 ∨ rt.endpoint.receiverGeneration ≠ 0) then
    .error .endpointInvariant
  else if rt.task1.state = .blockedReceive
      ∧ (rt.endpoint.occupied ∨ rt.endpoint.senderGeneration = 0) then
    .error .endpointInvariant
  else if rt.endpoint.receiverGeneration = 0 ∧ rt.endpoint.occupied then
    .error .endpointInvariant
  else if (rt.endpoint.occupied = false ∧ rt.endpoint.payload ≠ 0)
      ∨ ¬ (rt.endpoint.objectGeneration = 0 ∨ rt.endpoint.objectGeneration = endpointGeneration)
      ∨ ((rt.tasks.any fun s => s.state ≠ .dead)
          ∧ rt.endpoint.objectGeneration ≠ endpointGeneration)
      ∨ ((rt.endpoint.senderTask = 0) ≠ (rt.endpoint.senderGeneration = 0))
      ∨ ((rt.endpoint.receiverTask = 0) ≠ (rt.endpoint.receiverGeneration = 0))
      ∨ ¬ (rt.endpoint.senderTask = 0 ∨ rt.endpoint.senderTask = senderTaskId)
      ∨ ¬ (rt.endpoint.receiverTask = 0 ∨ rt.endpoint.receiverTask = receiverTaskId) then
    .error .endpointInvariant
  else if (rt.tasks.all fun s => s.state = .dead) ∧ rt.endpoint ≠ Endpoint.empty then
    .error .endpointInvariant
  else .ok ()

/-- The match on the broker state in `Runtime::validate_supervised`. -/
def checkBrokerState (rt : Runtime) : Except RuntimeError Unit :=
  match rt.broker.state with
  | .building => .error .brokerInvariant
  | .empty | .closing | .dead =>
    if rt.broker.requestPresent ∨ rt.broker.requestKind ≠ 0
        ∨ rt.broker.request ≠ ApprovalRequest.zero ∨ rt.broker.approvalEpoch ≠ 0
        ∨ rt.broker.expiryEpoch ≠ 0 then
      .error .brokerInvariant
    else .ok ()
  | .pending =>
    if rt.broker.requestPresent = false
        ∨ rt.broker.requestKind ≠ approvalRequestKindCommitSyntheticValue
        ∨ rt.broker.approvalEpoch ≠ 0 ∨ rt.broker.expiryEpoch ≠ 0
        ∨ rt.task1.state ≠ .blockedApproval then
      .error .brokerInvariant
    else .ok ()
  | .approved =>
    if rt.broker.requestPresent = false
        ∨ rt.broker.requestKind ≠ approvalRequestKindCommitSyntheticValue
        ∨ rt.broker.approvalEpoch = 0
        ∨ rt.broker.expiryEpoch ≠ saturatingAdd rt.broker.approvalEpoch 1
        ∨ rt.task1.state ≠ .blockedApproval then
      .error .brokerInvariant
    else .ok ()

/-- `Runtime::validate_supervised`. -/
def validateSupervised (rt : Runtime) : Except RuntimeError Unit :=
  if rt.endpoint ≠ Endpoint.empty ∨ rt.tasks.any fun s => s.state = .blockedReceive then
    .error .endpointInvariant
  else if rt.task0.state ≠ .dead ∧ rt.task0.generation ≠ supervisorGeneration then
    .error .invalidGeneration
  else if rt.task1.state ≠ .dead ∧ rt.task1.generation ≠ workloadGeneration then
    .error .invalidGeneration
  else if rt.task1.state = .staged ∧ (rt.manifest ≠ ManifestPublication.empty
      ∨ rt.task1.capabilities.state ≠ .building ∨ rt.task1.capabilities.liveSlots ≠ 0) then
    .error .manifestInvariant
  else if rt.task1.state ≠ .staged ∧ rt.task1.state ≠ .dead
      ∧ rt.task1.capabilities.state ≠ .closing
      ∧ (rt.manifest.published = false ∨ rt.manifest.manifestId ≠ manifestId
        ∨ rt.manifest.principalId ≠ principalId ∨ rt.manifest.targetTaskId ≠ receiverTaskId
        ∨ rt.manifest.targetGeneration ≠ workloadGeneration
        ∨ rt.manifest.imageId ≠ workloadImageId) then
    .error .manifestInvariant
  else if rt.task1.state = .dead ∧ rt.manifest ≠ ManifestPublication.empty then
    .error .manifestInvariant
  else do
    checkBrokerState rt
    if rt.broker.state ≠ .dead ∧ (rt.broker.objectGeneration ≠ fixedObjectGeneration
        ∨ rt.broker.nextSequence = 0 ∨ rt.broker.decisionEpoch = 0) then
      .error .brokerInvariant
    else if rt.broker.state = .dead ∧ rt.broker ≠ ApprovalBroker.dead then
      .error .brokerInvariant
    else if rt.broker.requestPresent ∧ (rt.broker.request.principalId ≠ principalId
        ∨ rt.broker.request.workloadTaskId ≠ receiverTaskId
        ∨ rt.broker.request.workloadGeneration ≠ workloadGeneration
        ∨ rt.broker.request.sequence = 0
        ∨ rt.broker.request.actionId ≠ approvalActionIdCommitSyntheticValue
        ∨ rt.broker.request.effectObjectId ≠ testEffectObjectId
        ∨ rt.broker.request.effectObjectGeneration ≠ fixedObjectGeneration
        ∨ rt.broker.request.requestedRights ≠ capabilityRightCommitEffect
        ∨ rt.broker.request.resultingRights ≠ 0) then
      .error .brokerInvariant
    else if rt.effect.objectGeneration = 0 ∧ rt.effect ≠ SyntheticEffect.empty then
      .error .effectInvariant
    else if rt.effect.objectGeneration ≠ 0
        ∧ (rt.effect.objectGeneration ≠ fixedObjectGeneration
          ∨ rt.effect.supervisorTaskId ≠ senderTaskId
          ∨ rt.effect.supervisorGeneration ≠ supervisorGeneration
          ∨ (rt.effect.occupied = false ∧ rt.effect.value ≠ 0)) then
      .error .effectInvariant
    else if (rt.tasks.all fun s => s.state = .dead) ∧ (rt.manifest ≠ ManifestPublication.empty
        ∨ rt.broker ≠ ApprovalBroker.dead ∨ rt.effect ≠ SyntheticEffect.empty) then
      .error .brokerInvariant
    else .ok ()

/-- `Runtime::validate`. -/
def validate (rt : Runtime) : Except RuntimeError Unit := do
  checkQueue rt.queue
  if (rt.tasks.filter fun s => s.state = .running).length > 1 then .error .multipleRunningTasks
  else do
    checkSlot rt.queue rt.task0
    checkSlot rt.queue rt.task1
    match rt.profile with
    | .cooperative => rt.validateCooperative
    | .supervised => rt.validateSupervised

/-! ## Running task, dispatch and capture -/

/-- The loop of `Runtime::running_task`. -/
def runningTaskFrom (running : UInt64) : List TaskSlot → Except RuntimeError UInt64
  | [] => if running = 0 then .error .noRunningTask else .ok running
  | slot :: rest =>
    if slot.state = .running then
      if running ≠ 0 then .error .multipleRunningTasks else runningTaskFrom slot.id rest
    else runningTaskFrom running rest

/-- `Runtime::running_task`. -/
def runningTask (rt : Runtime) : Except RuntimeError UInt64 := runningTaskFrom 0 rt.tasks

/-- `Runtime::dispatch_next`. -/
def dispatchNext : Method Runtime RuntimeError (Option UInt64) := do
  let rt ← Method.self
  if rt.tasks.any fun s => s.state = .running then Method.fail .wrongState
  else
    match rt.queue.pop with
    | (none, q) => do
      Method.update ({ · with queue := q })
      if rt.tasks.all fun s => s.state = .dead then pure none else Method.fail .noRunnableTask
    | (some task, q) => do
      Method.update ({ · with queue := q })
      let slot ← Method.query (·.slot task)
      if slot.state ≠ .ready then Method.fail .invalidQueueMember
      else do
        setState task .running
        Method.query validate
        pure (some task)

/-- `Runtime::capture_trap`. -/
def captureTrap (task : UInt64) (frame : TrapFrame) (root gen : UInt64) :
    Method Runtime RuntimeError Unit := do
  let slot ← Method.query (·.slot task)
  if slot.state ≠ .running ∨ slot.generation ≠ gen then Method.fail .wrongState
  else modifySlot task ({ · with context := TaskContext.fromTrap frame task gen root })

end Runtime

end MakopaVerified.TaskRuntime
