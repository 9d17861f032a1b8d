import MakopaVerified.TaskRuntime.Traps
import MakopaVerified.TaskRuntime.Journal

/-!
# The journaled runtime

`JournaledRuntime` of `crates/task-runtime`: a supervised runtime together with its effect journal.
Every accepted step of a request is recorded, and the wrapper steps the inner runtime first and the
journal second, taking the inner step back where the journal refuses. Not every error exit of
`handle_trap` does take it back; the model keeps each exit as the source has it.
-/

namespace MakopaVerified.TaskRuntime

open Foundation

structure JournaledRuntime where
  runtime : Runtime
  journal : EffectJournal
  deriving DecidableEq, Repr

namespace JournaledRuntime

/-- A call on the inner runtime. -/
def onRuntime {α : Type} (m : Method Runtime RuntimeError α) :
    Method JournaledRuntime RuntimeError α :=
  Method.onPart (·.runtime) (fun rt jr => { jr with runtime := rt }) id m

/-- A call on the journal; the caller looks at its error. -/
def onJournal {α : Type} (m : Method EffectJournal EffectJournalError α) :
    Method JournaledRuntime RuntimeError (Except EffectJournalError α) :=
  Method.onPart (·.journal) (fun j jr => { jr with journal := j }) id (Method.attempt m)

/-! ## `validate` -/

/-- The journal entries of a capability table. -/
def journalEntries (t : CapabilityTable) : List CapabilityEntry :=
  (t.slots.toList.filterMap (·.entry)).filter (·.objectType = objectTypeEffectJournal)

/-- The match on the journal state in `JournaledRuntime::validate`. -/
def checkJournalState (jr : JournaledRuntime) : Except RuntimeError Unit :=
  match jr.journal.state with
  | .building => .error .journalInvariant
  | .live =>
    if jr.runtime.tasks.all fun s => s.state = .dead then .error .journalInvariant
    else if jr.journal.reservedRecordCount ≠ (match jr.runtime.broker.state with
        | .pending => 2
        | .approved => 1
        | _ => 0) then
      .error .journalInvariant
    else .ok ()
  | .sealed =>
    if jr.journal.reservedRecordCount ≠ 0 ∨ jr.runtime.broker.requestPresent
        ∨ jr.runtime.broker.state = .pending ∨ jr.runtime.broker.state = .approved then
      .error .journalInvariant
    else .ok ()
  | .dead =>
    if (jr.runtime.tasks.any fun s => s.state ≠ .dead)
        ∨ (journalEntries jr.runtime.task0.capabilities).length ≠ 0 then
      .error .journalInvariant
    else .ok ()

/-- `JournaledRuntime::validate`. -/
def validate (jr : JournaledRuntime) : Except RuntimeError Unit := do
  jr.runtime.validate
  (jr.journal.validate).mapError fun _ => .journalInvariant
  if (journalEntries jr.runtime.task0.capabilities).length > 1
      ∨ (journalEntries jr.runtime.task1.capabilities).length ≠ 0 then
    .error .journalInvariant
  else if (journalEntries jr.runtime.task0.capabilities).any fun entry =>
      entry.rights ≠ capabilityRightReadEffectJournal ∨ entry.object.id ≠ effectJournalObjectId
        ∨ entry.object.generation ≠ effectJournalObjectGeneration then
    .error .journalInvariant
  else do
    checkJournalState jr
    if jr.runtime.task1.state = .dead
        ∧ ¬ (jr.journal.state = .sealed ∨ jr.journal.state = .dead) then
      .error .journalInvariant
    else .ok ()

/-! ## Publication -/

/-- `JournaledRuntime::rollback_publication`. -/
def rollbackPublication (baseHandles : List UInt64) (journalHandle : UInt64)
    (jr : JournaledRuntime) : JournaledRuntime where
  runtime :=
    Runtime.rollbackSupervisorPublication baseHandles
      (if journalHandle ≠ 0 then
        Runtime.mapSlot senderTaskId
          (fun s =>
            { s with capabilities := CapabilityTable.rollbackInstall journalHandle s.capabilities })
          jr.runtime
      else jr.runtime)
  journal := EffectJournal.dead

/-- The journal entry of `JournaledRuntime::publish_supervisor`; any other handle than the fixed
journal handle is taken back. -/
def installJournal (baseHandles : List UInt64) : Method JournaledRuntime RuntimeError UInt64 := do
  let handle ← Method.undoing (rollbackPublication baseHandles 0)
    (onRuntime (Runtime.onTable senderTaskId id (CapabilityTable.installObjectBuilding
      objectTypeEffectJournal
      { id := effectJournalObjectId, generation := effectJournalObjectGeneration }
      capabilityRightReadEffectJournal)))
  if handle = supervisorJournalHandle then pure handle
  else do
    Method.update fun jr =>
      rollbackPublication baseHandles 0
        { jr with
          runtime :=
            Runtime.mapSlot senderTaskId
              (fun s =>
                { s with capabilities := CapabilityTable.rollbackInstall handle s.capabilities })
              jr.runtime }
    Method.fail .capabilityInvariant

/-- `JournaledRuntime::publish_supervisor`. -/
def publishSupervisor (failBeforeStep : Option Nat) :
    Method JournaledRuntime RuntimeError Unit := do
  let baseHandles ← Method.undoing ({ · with journal := EffectJournal.dead })
    (onRuntime (Runtime.installSupervisor failBeforeStep Runtime.rollbackSupervisorPublication []
      Runtime.supervisorGrants))
  if failBeforeStep = some 3 then
    Method.undoing (rollbackPublication baseHandles 0) (Method.fail .publicationFailure)
  else do
    let journalHandle ← installJournal baseHandles
    Method.undoing (rollbackPublication baseHandles journalHandle) do
      if failBeforeStep = some 4 then Method.fail .publicationFailure
      else do
        match ← onJournal EffectJournal.publish with
        | .error _ => Method.fail .journalInvariant
        | .ok () =>
          if failBeforeStep = some 5 then Method.fail .publicationFailure
          else do
            onRuntime (Runtime.onTable senderTaskId (fun _ => .capabilityInvariant)
              CapabilityTable.publish)
            Method.update fun jr =>
              { jr with
                runtime := { jr.runtime with broker := { jr.runtime.broker with state := .empty } } }
            if failBeforeStep = some 6 then Method.fail .publicationFailure
            else do
              match ← Method.attempt (do
                  onRuntime (Runtime.onQueue (RunQueue.push senderTaskId))
                  Method.query validate) with
              | .error _ => Method.fail .publicationFailure
              | .ok () => pure ()

/-- `JournaledRuntime::new_supervised`. -/
def newSupervised (supervisor workload : TaskContext) : Except RuntimeError JournaledRuntime :=
  if supervisor.taskId ≠ senderTaskId ∨ workload.taskId ≠ receiverTaskId then .error .invalidTask
  else if supervisor.generation ≠ supervisorGeneration
      ∨ workload.generation ≠ workloadGeneration then
    .error .invalidGeneration
  else
    match (publishSupervisor none).run
        { runtime := Runtime.unpublishedSupervised supervisor workload
          journal := EffectJournal.building } with
    | (.ok (), jr) => .ok jr
    | (.error e, _) => .error e

/-! ## Journal reads -/

/-- `JournaledRuntime::set_journal_output`. -/
def setJournalOutput (task : UInt64) (status : TrapStatus) (values : UInt64 × UInt64 × UInt64) :
    Method JournaledRuntime RuntimeError Unit :=
  onRuntime (Runtime.modifySlot task fun s =>
    { s with
      context :=
        { s.context with
          rax := status.code
          rdi := values.1
          rsi := values.2.1
          rdx := values.2.2 } })

/-- `JournaledRuntime::journal_status`. -/
def journalStatus : EffectJournalError → TrapStatus
  | .full => .journalFull
  | .unavailable | .invariant => .journalUnavailable
  | .invalidRecord => .invalidRecord

/-- The rejections of `JournaledRuntime::handle_journal_read`. -/
def journalReadStatus (jr : JournaledRuntime) (task : UInt64) (operation : TrapOperation)
    (input : TaskContext) : Option TrapStatus :=
  if operation = .inspectEffectJournal ∧ (input.rsi ≠ 0 ∨ input.rdx ≠ 0) then
    some .invalidOperation
  else
    match jr.runtime.resolveObject task input.rdi objectTypeEffectJournal
        capabilityRightReadEffectJournal effectJournalObjectId jr.journal.objectGeneration with
    | .error status => some status
    | .ok () =>
      if ¬ (jr.journal.state = .live ∨ jr.journal.state = .sealed) then some .journalUnavailable
      else none

/-- `JournaledRuntime::handle_journal_read`. -/
def handleJournalRead (task : UInt64) (operation : TrapOperation) (input : TaskContext) :
    Method JournaledRuntime RuntimeError TrapOutcome := do
  let jr ← Method.self
  match jr.journalReadStatus task operation input with
  | some status => do
    setJournalOutput task status (0, 0, 0)
    pure (.resume task)
  | none => do
    match operation with
    | .inspectEffectJournal =>
      setJournalOutput task .ok
        (if jr.journal.committedRecordCount = 0 then 0 else 1, jr.journal.nextRecordSequence,
          UInt64.ofNat jr.journal.committedRecordCount)
    | .readEffectRecord =>
      match jr.journal.readTriplet input.rsi input.rdx with
      | .ok words => setJournalOutput task .ok words
      | .error e => setJournalOutput task (journalStatus e) (0, 0, 0)
    | _ => Method.fail .journalInvariant
    Method.query validate
    pure (.resume task)

/-! ## Traps -/

/-- `JournaledRuntime::rollback_submit`. -/
def rollbackSubmit (before : JournaledRuntime) (task : UInt64) (error : EffectJournalError) :
    Method JournaledRuntime RuntimeError TrapOutcome := do
  Method.update fun _ => before
  match error with
  | .full => do
    onRuntime (Runtime.setResult task .journalFull 0)
    Method.query validate
    pure (.resume task)
  | .unavailable => do
    onRuntime (Runtime.setResult task .journalUnavailable 0)
    Method.query validate
    pure (.resume task)
  | .invalidRecord | .invariant => Method.fail .journalInvariant

/-- Append a reserved record, or restore `before` and report a broken journal. -/
def appendOrRestore (before : JournaledRuntime) (record : EffectRecord) (releaseUnused : Bool) :
    Method JournaledRuntime RuntimeError Unit := do
  match ← onJournal (EffectJournal.appendReserved record releaseUnused) with
  | .ok () => pure ()
  | .error _ => do
    Method.update fun _ => before
    Method.fail .journalInvariant

/-- The last check of `handle_trap` and `begin_teardown`: restore `before` if it fails. -/
def validateOrRestore (before : JournaledRuntime) : Method JournaledRuntime RuntimeError Unit := do
  match ← Method.attempt (Method.query validate) with
  | .ok () => pure ()
  | .error _ => do
    Method.update fun _ => before
    Method.fail .journalInvariant

/-- The end of `JournaledRuntime::handle_trap` for every arm that falls through the match. -/
def finishTrap (before : JournaledRuntime) (outcome : TrapOutcome) :
    Method JournaledRuntime RuntimeError TrapOutcome := do
  validateOrRestore before
  pure outcome

/-- The `SubmitApproval` arm of `JournaledRuntime::handle_trap`. -/
def journalSubmit (before : JournaledRuntime) (task : UInt64) (outcome : TrapOutcome) :
    Method JournaledRuntime RuntimeError TrapOutcome := do
  -- three epochs are kept for a request: its decision, its commit, and the terminal step
  if before.runtime.broker.decisionEpoch > u64Max - 3 then do
    Method.update fun _ => before
    onRuntime (Runtime.setResult task .brokerUnavailable 0)
    Method.query validate
    pure (.resume task)
  else do
    let jr ← Method.self
    let record := EffectRecord.event .requested .ok jr.runtime.broker.decisionEpoch
      receiverTaskId workloadGeneration jr.runtime.broker.request objectTypeApprovalBroker
      capabilityRightSubmitApproval
    match ← onJournal (EffectJournal.beginLifecycle record) with
    | .error e => rollbackSubmit before task e
    | .ok () => finishTrap before outcome

/-- The match on the decision in the `DecideApproval` arm: kind, status and whether the
reservation that is left is released. -/
def decisionRecord (before after : JournaledRuntime) (decision : UInt64) :
    Option (EffectEventKind × TrapStatus × Bool) :=
  if decision = decisionApprove ∧ after.runtime.broker.state = .approved then
    some (.approved, .ok, false)
  else if decision = decisionDeny ∧ after.runtime.broker.state = .empty then
    some (.denied, .approvalDenied, true)
  else if decision = decisionExpire ∧ after.runtime.broker.state = .empty then
    some (.expired, .approvalExpired, before.runtime.broker.state = .pending)
  else none

/-- The `DecideApproval` arm of `JournaledRuntime::handle_trap`. -/
def journalDecide (before : JournaledRuntime) (decision : UInt64) (outcome : TrapOutcome) :
    Method JournaledRuntime RuntimeError TrapOutcome := do
  let jr ← Method.self
  match decisionRecord before jr decision with
  | none => Method.fail .journalInvariant
  | some (kind, status, releaseUnused) => do
    appendOrRestore before (EffectRecord.event kind status jr.runtime.broker.decisionEpoch
      senderTaskId supervisorGeneration before.runtime.broker.request objectTypeApprovalBroker
      capabilityRightDecideApproval) releaseUnused
    finishTrap before outcome

/-- The `CommitEffect` arm of `JournaledRuntime::handle_trap` after a commit. -/
def journalCommit (before : JournaledRuntime) (outcome : TrapOutcome) :
    Method JournaledRuntime RuntimeError TrapOutcome := do
  let jr ← Method.self
  appendOrRestore before (EffectRecord.event .completed .ok jr.runtime.broker.decisionEpoch
    senderTaskId supervisorGeneration before.runtime.broker.request objectTypeTestEffect
    capabilityRightCommitEffect) false
  finishTrap before outcome

/-- The `CommitEffect` arm of `JournaledRuntime::handle_trap` on an occupied effect: the approval
is consumed and the failure recorded. -/
def journalFailedCommit (before : JournaledRuntime) (task : UInt64) (outcome : TrapOutcome) :
    Method JournaledRuntime RuntimeError TrapOutcome := do
  let jr ← Method.self
  match checkedAdd jr.runtime.broker.decisionEpoch 1 with
  -- this exit keeps what the inner runtime has already written
  | none => Method.fail .brokerInvariant
  | some nextEpoch => do
    onRuntime (Method.update fun rt => { rt with broker := rt.broker.conclude nextEpoch })
    onRuntime (Runtime.wakeWorkload .effectUnavailable 0)
    onRuntime (Runtime.setResult task .effectUnavailable 0)
    appendOrRestore before (EffectRecord.event .failed .effectUnavailable nextEpoch senderTaskId
      supervisorGeneration before.runtime.broker.request objectTypeTestEffect
      capabilityRightCommitEffect) false
    finishTrap before outcome

/-- The match on the operation in `JournaledRuntime::handle_trap`, after the inner runtime has
handled the trap. -/
def recordTrap (before : JournaledRuntime) (task : UInt64) (input : TaskContext)
    (outcome : TrapOutcome) : Method JournaledRuntime RuntimeError TrapOutcome := do
  let jr ← Method.self
  let context ← Method.query (·.runtime.context task)
  match TrapOperation.parse input.rax with
  | some .submitApproval =>
    if before.runtime.broker.state = .empty ∧ jr.runtime.broker.state = .pending
        ∧ jr.runtime.broker.requestPresent then
      journalSubmit before task outcome
    else finishTrap before outcome
  | some .decideApproval =>
    if before.runtime.broker.requestPresent ∧ context.rax = TrapStatus.ok.code then
      journalDecide before input.rdx outcome
    else finishTrap before outcome
  | some .commitEffect =>
    if before.runtime.broker.state = .approved ∧ jr.runtime.broker.state = .empty
        ∧ context.rax = TrapStatus.ok.code then
      journalCommit before outcome
    else if before.runtime.broker.state = .approved ∧ jr.runtime.broker.state = .approved
        ∧ context.rax = TrapStatus.effectUnavailable.code then
      journalFailedCommit before task outcome
    else finishTrap before outcome
  | _ => finishTrap before outcome

/-- `JournaledRuntime::handle_trap`. -/
def handleTrap (task : UInt64) : Method JournaledRuntime RuntimeError TrapOutcome := do
  let running ← Method.query (·.runtime.runningTask)
  if running ≠ task then Method.fail .wrongState
  else do
    let input ← Method.query (·.runtime.context task)
    match TrapOperation.parse input.rax with
    | some .inspectEffectJournal => handleJournalRead task .inspectEffectJournal input
    | some .readEffectRecord => handleJournalRead task .readEffectRecord input
    | _ => do
      let before ← Method.self
      let outcome ← Method.undoing (fun _ => before) (onRuntime (Runtime.handleTrap task))
      recordTrap before task input outcome

/-! ## Teardown -/

/-- The terminal record that `JournaledRuntime::begin_teardown` writes for an open request. -/
def terminalRecord (broker : ApprovalBroker) : Option (EffectEventKind × TrapStatus × Bool) :=
  match broker.state with
  | .pending => some (.denied, .approvalDenied, true)
  | .approved => some (.expired, .approvalExpired, false)
  | _ => none

/-- The part of `JournaledRuntime::begin_teardown` that closes an open request in the journal. -/
def recordTeardown (before : JournaledRuntime) : Method JournaledRuntime RuntimeError Unit := do
  match checkedAdd before.runtime.broker.decisionEpoch 1 with
  | none => Method.fail .journalInvariant
  | some terminalEpoch => do
    onRuntime (Method.update fun rt =>
      { rt with broker := { rt.broker with decisionEpoch := terminalEpoch } })
    match terminalRecord before.runtime.broker with
    | none => Method.fail .journalInvariant
    | some (kind, status, releaseUnused) =>
      appendOrRestore before (EffectRecord.event kind status terminalEpoch 0 0
        before.runtime.broker.request objectTypeApprovalBroker 0) releaseUnused

/-- The sealing part of `JournaledRuntime::begin_teardown`. -/
def sealJournal (before : JournaledRuntime) : Method JournaledRuntime RuntimeError Unit := do
  if before.runtime.broker.requestPresent then recordTeardown before else pure ()
  match ← onJournal EffectJournal.sealLive with
  | .ok () => pure ()
  | .error _ => do
    Method.update fun _ => before
    Method.fail .journalInvariant

/-- `JournaledRuntime::begin_teardown`. -/
def beginTeardown (task : UInt64) : Method JournaledRuntime RuntimeError Unit := do
  let before ← Method.self
  let slot ← Method.query (·.runtime.slot task)
  if slot.state ≠ .exited then Method.fail .wrongState
  else do
    if before.journal.state = .live then sealJournal before else pure ()
    Method.undoing (fun _ => before) (onRuntime (Runtime.beginTeardown task))
    validateOrRestore before

/-- `JournaledRuntime::complete_teardown`. -/
def completeTeardown (task : UInt64) : Method JournaledRuntime RuntimeError (Option UInt64) := do
  let before ← Method.self
  let next ← Method.undoing (fun _ => before) (onRuntime (Runtime.completeTeardown task))
  validateOrRestore before
  pure next

/-- `JournaledRuntime::finish_reclamation`. -/
def finishReclamation : Method JournaledRuntime RuntimeError Unit := do
  let before ← Method.self
  if (before.runtime.tasks.any fun s => s.state ≠ .dead) ∨ before.journal.state ≠ .sealed
      ∨ before.journal.reservedRecordCount ≠ 0 ∨ before.journal.validate ≠ .ok () then
    Method.fail .journalInvariant
  else do
    Method.update ({ · with journal := EffectJournal.dead })
    validateOrRestore before

/-- `JournaledRuntime::dispatch_next`. -/
def dispatchNext : Method JournaledRuntime RuntimeError (Option UInt64) :=
  onRuntime Runtime.dispatchNext

/-- `JournaledRuntime::capture_trap`. -/
def captureTrap (task : UInt64) (frame : TrapFrame) (root gen : UInt64) :
    Method JournaledRuntime RuntimeError Unit :=
  onRuntime (Runtime.captureTrap task frame root gen)

end JournaledRuntime

end MakopaVerified.TaskRuntime
