import MakopaVerified.TaskRuntime.Publication

/-!
# Trap operations and teardown

`Runtime::handle_trap` with its eleven operations, and the two phases of task teardown. The
long `if .. else if ..` that an operation starts with, which only reads the runtime and picks the
status of a rejection, is a function of its own (`sendStatus`, `submitStatus`, ..).
-/

namespace MakopaVerified.TaskRuntime

open Foundation

namespace Runtime

/-! ## Handle resolution -/

/-- `Runtime::resolve_endpoint`. -/
def resolveEndpoint (rt : Runtime) (task handle requiredRight : UInt64) : Except TrapStatus Unit :=
  match rt.slot task with
  | .error _ => .error .invalidHandle
  | .ok slot =>
    match slot.capabilities.resolve task slot.generation handle requiredRight with
    | .error status => .error status
    | .ok entry =>
      if entry.object.id ≠ endpointId ∨ entry.object.generation ≠ endpointGeneration
          ∨ rt.endpoint.objectGeneration ≠ endpointGeneration then
        .error .invalidHandle
      else .ok ()

/-- `Runtime::resolve_object`. -/
def resolveObject (rt : Runtime) (task handle : UInt64) (objectType : UInt32)
    (requiredRight objectId objectGeneration : UInt64) : Except TrapStatus Unit :=
  match rt.slot task with
  | .error _ => .error .invalidHandle
  | .ok slot =>
    match slot.capabilities.resolveTyped task slot.generation handle objectType requiredRight with
    | .error status => .error status
    | .ok entry =>
      if entry.object.id ≠ objectId ∨ entry.object.generation ≠ objectGeneration
          ∨ objectGeneration = 0 then
        .error .invalidHandle
      else .ok ()

/-- Answer the caller and resume it, without an invariant check. -/
def answer (task : UInt64) (status : TrapStatus) (value : UInt64) :
    Method Runtime RuntimeError TrapOutcome := do
  setResult task status value
  pure (.resume task)

/-- Answer the caller, check the invariants and resume it. -/
def answerChecked (task : UInt64) (status : TrapStatus) (value : UInt64) :
    Method Runtime RuntimeError TrapOutcome := do
  setResult task status value
  Method.query validate
  pure (.resume task)

/-- `self.dispatch_next()?.ok_or(RuntimeError::NoRunnableTask)?`. -/
def dispatchSome : Method Runtime RuntimeError UInt64 := do
  match ← dispatchNext with
  | some next => pure next
  | none => Method.fail .noRunnableTask

/-! ## Yield, send, receive and exit -/

/-- The `TrapOperation::Yield` arm of `handle_trap_inner`. -/
def yieldTask (task first second third : UInt64) : Method Runtime RuntimeError TrapOutcome := do
  if first ≠ 0 ∨ second ≠ 0 ∨ third ≠ 0 then answer task .invalidOperation 0
  else do
    setResult task .ok 0
    setState task .ready
    onQueue (RunQueue.push task)
    let next ← dispatchSome
    pure (.switch next)

/-- The rejections of `Runtime::send`; `none` accepts the message. -/
def sendStatus (rt : Runtime) (task handle reserved : UInt64) : Option TrapStatus :=
  if reserved ≠ 0 then some .invalidOperation
  else
    match rt.resolveEndpoint task handle capabilityRightSend with
    | .error status => some status
    | .ok () =>
      if rt.endpoint.receiverGeneration = 0 then some .peerExited
      else if rt.endpoint.occupied then some .slotFull
      else none

/-- `Runtime::send`. -/
def send (task handle message reserved : UInt64) : Method Runtime RuntimeError TrapOutcome := do
  let rt ← Method.self
  match rt.sendStatus task handle reserved with
  | some status => answerChecked task status 0
  | none => do
    Method.update fun rt =>
      { rt with endpoint := { rt.endpoint with occupied := true, payload := message } }
    let receiver ← Method.query (·.slot receiverTaskId)
    -- a receiver already blocked takes the message at once: the slot never stays occupied
    if receiver.state = .blockedReceive then do
      let rt ← Method.self
      Method.update fun rt =>
        { rt with endpoint := { rt.endpoint with occupied := false, payload := 0 } }
      setResult receiverTaskId .ok rt.endpoint.payload
      setState receiverTaskId .ready
      onQueue (RunQueue.push receiverTaskId)
      answerChecked task .ok 0
    else answerChecked task .ok 0

/-- The rejections of `Runtime::receive` that come before the endpoint is looked at. -/
def receiveStatus (rt : Runtime) (task handle reservedMessage reserved : UInt64) :
    Option TrapStatus :=
  if reservedMessage ≠ 0 ∨ reserved ≠ 0 then some .invalidOperation
  else
    match rt.resolveEndpoint task handle capabilityRightReceive with
    | .error status => some status
    | .ok () => none

/-- `Runtime::receive`. -/
def receive (task handle reservedMessage reserved : UInt64) :
    Method Runtime RuntimeError TrapOutcome := do
  let rt ← Method.self
  match rt.receiveStatus task handle reservedMessage reserved with
  | some status => answer task status 0
  | none =>
    if rt.endpoint.occupied then do
      Method.update fun rt =>
        { rt with endpoint := { rt.endpoint with occupied := false, payload := 0 } }
      answerChecked task .ok rt.endpoint.payload
    else if rt.endpoint.senderGeneration = 0 then answer task .peerExited 0
    else do
      setState task .blockedReceive
      let next ← dispatchSome
      Method.query validate
      pure (.switch next)

/-- `Runtime::exit`. -/
def exit (task first second third : UInt64) : Method Runtime RuntimeError TrapOutcome := do
  if first ≠ 0 ∨ second ≠ 0 ∨ third ≠ 0 then answer task .invalidOperation 0
  else do
    setState task .exited
    Method.query validate
    pure (.exit task)

/-! ## Handle operations -/

/-- Call an operation of the caller's own table and keep its status for the answer. -/
def callTable {α : Type} (task : UInt64) (m : UInt64 → Method CapabilityTable TrapStatus α) :
    Method Runtime RuntimeError (Except TrapStatus α) := do
  let slot ← Method.query (·.slot task)
  onTable task (fun e : RuntimeError => e) (Method.attempt (m slot.generation))

/-- `Runtime::duplicate`. -/
def duplicate (task source requestedRights reserved : UInt64) :
    Method Runtime RuntimeError TrapOutcome := do
  if reserved ≠ 0 then answer task .invalidOperation 0
  else do
    match ← callTable task fun gen => CapabilityTable.duplicate task gen source requestedRights with
    | .ok handle => answerChecked task .ok handle
    | .error status => answerChecked task status 0

/-- `Runtime::close`. -/
def close (task handle reservedRights reserved : UInt64) :
    Method Runtime RuntimeError TrapOutcome := do
  if reservedRights ≠ 0 ∨ reserved ≠ 0 then answer task .invalidOperation 0
  else do
    match ← callTable task fun gen => CapabilityTable.close task gen handle with
    | .ok () => answerChecked task .ok 0
    | .error status => answerChecked task status 0

/-! ## Launch -/

/-- The rejections of `Runtime::start_workload_with_failure`. -/
def startStatus (rt : Runtime) (task handle manifest reserved : UInt64) : Option TrapStatus :=
  if reserved ≠ 0 then some .invalidOperation
  else if rt.profile ≠ .supervised then some .wrongObject
  else
    match rt.resolveObject task handle objectTypeTaskControl capabilityRightStart
        taskControlObjectId fixedObjectGeneration with
    | .error status => some status
    | .ok () =>
      if manifest ≠ manifestId then some .invalidManifest
      else if rt.task1.state ≠ .staged then some .alreadyLaunched
      else
        match registeredLaunchManifest.validate rt.task1.generation rt.broker.objectGeneration
            rt.task1.capabilities.availableSlots with
        | .error _ => some .invalidManifest
        | .ok () => none

/-- The route loop of `Runtime::start_workload_with_failure`, on the workload's table. -/
def installRoutes : List LaunchRoute → Method CapabilityTable RuntimeError Unit
  | [] => pure ()
  | route :: rest => do
    let _ ← CapabilityTable.installObjectBuilding route.objectType
      { id := route.objectId, generation := route.objectGeneration } route.rights
    installRoutes rest

/-- `*self = before`, then the status `InvalidManifest` for the caller. -/
def abandonLaunch (before : Runtime) (task : UInt64) : Method Runtime RuntimeError TrapOutcome := do
  Method.update fun _ => before
  answer task .invalidManifest 0

/-- `Runtime::start_workload_with_failure`. -/
def startWorkloadWithFailure (task handle manifest reserved : UInt64)
    (failBeforeStep : Option Nat) : Method Runtime RuntimeError TrapOutcome := do
  let before ← Method.self
  match before.startStatus task handle manifest reserved with
  | some status => answer task status 0
  | none =>
    if failBeforeStep = some 0 then abandonLaunch before task
    else do
      let routes := registeredLaunchManifest.routes.toList.take
        registeredLaunchManifest.routeCount.toNat
      match ← onTable receiverTaskId (fun e : RuntimeError => e)
          (Method.attempt (installRoutes routes)) with
      | .error _ => abandonLaunch before task
      | .ok () =>
        if failBeforeStep = some 1 then abandonLaunch before task
        else do
          match ← onTable receiverTaskId (fun e : RuntimeError => e)
              (Method.attempt CapabilityTable.publish) with
          | .error _ => abandonLaunch before task
          | .ok () =>
            if failBeforeStep = some 2 then abandonLaunch before task
            else do
              Method.update fun rt =>
                { rt with
                  manifest := ManifestPublication.registered
                  task1 := { rt.task1 with state := .ready } }
              if failBeforeStep = some 3 then abandonLaunch before task
              else do
                onQueue (RunQueue.push receiverTaskId)
                answerChecked task .ok 0

/-- `Runtime::start_workload`. -/
def startWorkload (task handle manifest reserved : UInt64) :
    Method Runtime RuntimeError TrapOutcome :=
  startWorkloadWithFailure task handle manifest reserved none

/-! ## Approval requests -/

/-- The rejections of `Runtime::submit_approval`. -/
def submitStatus (rt : Runtime) (task handle requestKind : UInt64) : Option TrapStatus :=
  if rt.profile ≠ .supervised then some .wrongObject
  else
    match rt.resolveObject task handle objectTypeApprovalBroker capabilityRightSubmitApproval
        approvalBrokerObjectId rt.broker.objectGeneration with
    | .error status => some status
    | .ok () =>
      if rt.broker.state = .building ∨ rt.broker.state = .closing ∨ rt.broker.state = .dead
          ∨ rt.broker.sequenceExhausted ∨ rt.broker.decisionEpoch = u64Max then
        some .brokerUnavailable
      else if rt.broker.state = .pending ∨ rt.broker.state = .approved then some .brokerFull
      else if requestKind ≠ approvalRequestKindCommitSyntheticValue ∨ task ≠ receiverTaskId
          ∨ rt.manifest ≠ ManifestPublication.registered then
        some .invalidRequest
      else none

/-- `Runtime::submit_approval`. -/
def submitApproval (task handle requestKind argument : UInt64) :
    Method Runtime RuntimeError TrapOutcome := do
  let rt ← Method.self
  match rt.submitStatus task handle requestKind with
  | some status => answerChecked task status 0
  | none =>
    match checkedAdd rt.broker.decisionEpoch 1 with
    | none => Method.fail .brokerInvariant
    | some nextEpoch => do
      Method.update fun rt =>
        { rt with broker := rt.broker.submit requestKind argument nextEpoch }
      setState task .blockedApproval
      let next ← dispatchSome
      Method.query validate
      pure (.switch next)

/-- The rejections of `Runtime::inspect_approval`. -/
def inspectStatus (rt : Runtime) (task handle reservedKind reservedArgument : UInt64) :
    Option TrapStatus :=
  if reservedKind ≠ 0 ∨ reservedArgument ≠ 0 then some .invalidOperation
  else if rt.profile ≠ .supervised then some .wrongObject
  else
    match rt.resolveObject task handle objectTypeApprovalBroker capabilityRightDecideApproval
        approvalBrokerObjectId rt.broker.objectGeneration with
    | .error status => some status
    | .ok () =>
      if rt.broker.state ≠ .pending ∨ rt.broker.requestPresent = false then
        some (if rt.broker.state = .closing ∨ rt.broker.state = .dead then .brokerUnavailable
          else .invalidRequest)
      else none

/-- `Runtime::inspect_approval`. -/
def inspectApproval (task handle reservedKind reservedArgument : UInt64) :
    Method Runtime RuntimeError TrapOutcome := do
  let rt ← Method.self
  match rt.inspectStatus task handle reservedKind reservedArgument with
  | some status => answerChecked task status 0
  | none => do
    modifySlot task fun s =>
      { s with
        context :=
          { s.context with
            rax := TrapStatus.ok.code
            rdi := rt.broker.request.sequence
            rsi := rt.broker.requestKind
            rdx := rt.broker.request.argument } }
    Method.query validate
    pure (.resume task)

/-- `Runtime::wake_workload`. -/
def wakeWorkload (status : TrapStatus) (value : UInt64) : Method Runtime RuntimeError Unit := do
  let workload ← Method.query (·.slot receiverTaskId)
  if workload.state ≠ .blockedApproval then Method.fail .brokerInvariant
  else do
    setResult receiverTaskId status value
    setState receiverTaskId .ready
    onQueue (RunQueue.push receiverTaskId)

/-- `Runtime::fail_broker_epoch_exhaustion`. -/
def failBrokerEpochExhaustion : Method Runtime RuntimeError Unit := do
  let workload ← Method.query (·.slot receiverTaskId)
  if workload.state = .blockedApproval then wakeWorkload .brokerUnavailable 0 else pure ()
  Method.update fun rt => { rt with broker := { rt.broker.clearRequest with state := .closing } }

/-- The rejections of `Runtime::decide_approval`. -/
def decideStatus (rt : Runtime) (task handle sequence decision : UInt64) : Option TrapStatus :=
  if rt.profile ≠ .supervised then some .wrongObject
  else
    match rt.resolveObject task handle objectTypeApprovalBroker capabilityRightDecideApproval
        approvalBrokerObjectId rt.broker.objectGeneration with
    | .error status => some status
    | .ok () =>
      if rt.broker.state = .closing ∨ rt.broker.state = .dead then some .brokerUnavailable
      else if rt.broker.requestPresent = false ∨ rt.broker.request.sequence ≠ sequence then
        some .approvalMismatch
      else if ¬ (decision = decisionDeny ∨ decision = decisionApprove ∨ decision = decisionExpire)
          ∨ (decision = decisionApprove ∧ rt.broker.state ≠ .pending)
          ∨ (decision = decisionDeny ∧ rt.broker.state ≠ .pending)
          ∨ (decision = decisionExpire
            ∧ ¬ (rt.broker.state = .pending ∨ rt.broker.state = .approved)) then
        some .invalidRequest
      else none

/-- The end of `Runtime::decide_approval` when the epoch counter has run out. -/
def exhaustBroker (task : UInt64) : Method Runtime RuntimeError TrapOutcome := do
  failBrokerEpochExhaustion
  answerChecked task .brokerUnavailable 0

/-- The match on the decision in `Runtime::decide_approval`. -/
def applyDecision (decision nextEpoch : UInt64) : Method Runtime RuntimeError Unit := do
  if decision = decisionApprove then
    Method.update fun rt => { rt with broker := rt.broker.approve nextEpoch }
  else if decision = decisionDeny then do
    Method.update fun rt => { rt with broker := rt.broker.conclude nextEpoch }
    wakeWorkload .approvalDenied 0
  else if decision = decisionExpire then do
    Method.update fun rt => { rt with broker := rt.broker.conclude nextEpoch }
    wakeWorkload .approvalExpired 0
  else do
    Method.update fun rt => { rt with broker := { rt.broker with decisionEpoch := nextEpoch } }
    Method.fail .brokerInvariant

/-- `Runtime::decide_approval`. -/
def decideApproval (task handle sequence decision : UInt64) :
    Method Runtime RuntimeError TrapOutcome := do
  let rt ← Method.self
  match rt.decideStatus task handle sequence decision with
  | some status => answerChecked task status 0
  | none =>
    match checkedAdd rt.broker.decisionEpoch 1 with
    | none => exhaustBroker task
    | some nextEpoch =>
      -- an approval also needs the epoch after it, kept for its expiry
      if decision = decisionApprove ∧ nextEpoch = u64Max then exhaustBroker task
      else do
        applyDecision decision nextEpoch
        answerChecked task .ok 0

/-- The rejections of `Runtime::commit_effect`. -/
def commitStatus (rt : Runtime) (task handle sequence argument : UInt64) : Option TrapStatus :=
  if rt.profile ≠ .supervised then some .wrongObject
  else
    match rt.resolveObject task handle objectTypeTestEffect capabilityRightCommitEffect
        testEffectObjectId rt.effect.objectGeneration with
    | .error status => some status
    | .ok () =>
      if rt.broker.state ≠ .approved ∨ rt.broker.requestPresent = false
          ∨ rt.broker.request.sequence ≠ sequence ∨ rt.broker.request.argument ≠ argument
          ∨ rt.broker.request.principalId ≠ principalId
          ∨ rt.broker.request.workloadTaskId ≠ receiverTaskId
          ∨ rt.broker.request.workloadGeneration ≠ workloadGeneration
          ∨ rt.broker.request.actionId ≠ approvalActionIdCommitSyntheticValue
          ∨ rt.broker.request.effectObjectId ≠ testEffectObjectId
          ∨ rt.broker.request.effectObjectGeneration ≠ fixedObjectGeneration
          ∨ rt.broker.request.requestedRights ≠ capabilityRightCommitEffect
          ∨ rt.broker.request.resultingRights ≠ 0 then
        some .approvalMismatch
      else if rt.effect.occupied then some .effectUnavailable
      else if rt.broker.decisionEpoch ≥ rt.broker.expiryEpoch then some .approvalExpired
      else none

/-- `Runtime::commit_effect`. -/
def commitEffect (task handle sequence argument : UInt64) :
    Method Runtime RuntimeError TrapOutcome := do
  let rt ← Method.self
  match rt.commitStatus task handle sequence argument with
  | some status => answerChecked task status 0
  | none =>
    match checkedAdd rt.broker.decisionEpoch 1 with
    | none => Method.fail .brokerInvariant
    | some nextEpoch =>
      if nextEpoch ≠ rt.broker.expiryEpoch then answer task .approvalExpired 0
      else do
        Method.update fun rt =>
          { rt with
            effect := { rt.effect with occupied := true, value := argument }
            broker := rt.broker.conclude nextEpoch }
        wakeWorkload .ok argument
        answerChecked task .ok 0

/-! ## Trap dispatch -/

/-- The match on the operation in `Runtime::handle_trap_inner`. -/
def perform (task : UInt64) (input : TaskContext) :
    TrapOperation → Method Runtime RuntimeError TrapOutcome
  | .yield => yieldTask task input.rdi input.rsi input.rdx
  | .send => send task input.rdi input.rsi input.rdx
  | .receive => receive task input.rdi input.rsi input.rdx
  | .exit => exit task input.rdi input.rsi input.rdx
  | .duplicate => duplicate task input.rdi input.rsi input.rdx
  | .close => close task input.rdi input.rsi input.rdx
  | .startWorkload => startWorkload task input.rdi input.rsi input.rdx
  | .submitApproval => submitApproval task input.rdi input.rsi input.rdx
  | .inspectApproval => inspectApproval task input.rdi input.rsi input.rdx
  | .decideApproval => decideApproval task input.rdi input.rsi input.rdx
  | .commitEffect => commitEffect task input.rdi input.rsi input.rdx
  | .inspectEffectJournal | .readEffectRecord => answerChecked task .invalidOperation 0

/-- `Runtime::handle_trap_inner`. -/
def handleTrapInner (task : UInt64) : Method Runtime RuntimeError TrapOutcome := do
  let running ← Method.query runningTask
  if running ≠ task then Method.fail .wrongState
  else do
    let input ← Method.query (·.context task)
    match TrapOperation.parse input.rax with
    | none => answer task .invalidOperation 0
    | some operation => perform task input operation

/-- `Runtime::handle_trap`. -/
def handleTrap (task : UInt64) : Method Runtime RuntimeError TrapOutcome :=
  Method.restoring (handleTrapInner task)

/-! ## Teardown -/

/-- The supervisor arm of `Runtime::begin_teardown_inner`. -/
def releaseSupervisor : Method Runtime RuntimeError Unit := do
  let workload ← Method.query (·.slot receiverTaskId)
  if workload.state = .blockedApproval then do
    let rt ← Method.self
    wakeWorkload (match rt.broker.state with
      | .pending => .approvalDenied
      | .approved => .approvalExpired
      | _ => .brokerUnavailable) 0
  else pure ()
  Method.update fun rt =>
    { rt with
      broker :=
        { rt.broker.clearRequest with
          state := .closing
          supervisorTaskId := 0
          supervisorGeneration := 0 }
      effect := SyntheticEffect.empty }

/-- The workload arm of `Runtime::begin_teardown_inner`. -/
def releaseWorkload (rt : Runtime) : Runtime :=
  { rt with
    manifest := ManifestPublication.empty
    broker :=
      { rt.broker.clearRequest with
        state :=
          if ¬ (rt.broker.state = .closing ∨ rt.broker.state = .dead) then
            if rt.task0.state = .dead then .closing else .empty
          else rt.broker.state
        workloadTaskId := 0
        workloadGeneration := 0 } }

/-- The sender arm of `Runtime::begin_teardown_inner` in the cooperative profile. -/
def releaseSender : Method Runtime RuntimeError Unit := do
  Method.update fun rt =>
    { rt with endpoint := { rt.endpoint with senderTask := 0, senderGeneration := 0 } }
  let rt ← Method.self
  let receiver ← Method.query (·.slot receiverTaskId)
  if rt.endpoint.occupied = false ∧ receiver.state = .blockedReceive then do
    setResult receiverTaskId .peerExited 0
    setState receiverTaskId .ready
    onQueue (RunQueue.push receiverTaskId)
  else pure ()

/-- The receiver arm of `Runtime::begin_teardown_inner` in the cooperative profile. -/
def releaseReceiver (rt : Runtime) : Runtime :=
  { rt with
    endpoint :=
      { rt.endpoint with
        receiverTask := 0
        receiverGeneration := 0
        occupied := false
        payload := 0 } }

/-- `Runtime::begin_teardown_inner`. -/
def beginTeardownInner (task : UInt64) : Method Runtime RuntimeError Unit := do
  let slot ← Method.query (·.slot task)
  if slot.state ≠ .exited then Method.fail .wrongState
  else do
    let rt ← Method.self
    if rt.profile = .supervised then do
      onTable task id CapabilityTable.markClosing
      if task = senderTaskId then releaseSupervisor
      else if task = receiverTaskId then Method.update releaseWorkload
      else Method.fail .invalidTask
      onTable task id CapabilityTable.closeAll
      Method.query validate
    else do
      onTable task id CapabilityTable.beginClosing
      if task = senderTaskId then releaseSender
      else if task = receiverTaskId then Method.update releaseReceiver
      else Method.fail .invalidTask
      Method.query validate

/-- `Runtime::begin_teardown`. -/
def beginTeardown (task : UInt64) : Method Runtime RuntimeError Unit :=
  Method.restoring (beginTeardownInner task)

/-- `Runtime::complete_teardown_inner`. -/
def completeTeardownInner (task : UInt64) : Method Runtime RuntimeError (Option UInt64) := do
  let slot ← Method.query (·.slot task)
  if slot.state ≠ .exited ∨ slot.capabilities.state ≠ .closing then Method.fail .wrongState
  else do
    onTable task id CapabilityTable.finishDead
    modifySlot task fun s =>
      { s with state := .dead, generation := 0, context := TaskContext.clearDead }
    Method.update fun rt =>
      if rt.profile = .supervised ∧ task = senderTaskId then
        { rt with broker := ApprovalBroker.dead, effect := SyntheticEffect.empty }
      else rt
    Method.update fun rt =>
      if rt.tasks.all fun s => s.state = .dead then
        { rt with
          endpoint := Endpoint.empty
          manifest := ManifestPublication.empty
          broker := ApprovalBroker.dead
          effect := SyntheticEffect.empty }
      else rt
    Method.query validate
    dispatchNext

/-- `Runtime::complete_teardown`. -/
def completeTeardown (task : UInt64) : Method Runtime RuntimeError (Option UInt64) :=
  Method.restoring (completeTeardownInner task)

end Runtime

end MakopaVerified.TaskRuntime
