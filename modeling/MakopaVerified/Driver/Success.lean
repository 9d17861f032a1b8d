import MakopaVerified.Driver.Pairing
import MakopaVerified.TaskRuntime.Shutdown

/-!
# The end of a scheduler

`scheduler_success` of `kernel/src/arch_x86_64.rs`, where the driver arrives when no task is left:
the globals and the runtime are looked through for anything that remains, the journal is compared
with the records that the probes of the kernel make, and is then reclaimed. `Turn` lists the calls
of the runtime that the driver makes for one trap.
-/

namespace MakopaVerified.Driver

open Foundation AddressSpace TaskRuntime

/-! ## The reference journal -/

/-- An entry of the table `EXPECTED`. -/
structure ExpectedRecord where
  kind : EffectEventKind
  status : TrapStatus
  epoch : UInt64
  actor : UInt64
  actorGeneration : UInt64
  requestSequence : UInt64
  objectType : UInt32
  rights : UInt64

/-- The table `EXPECTED` of `journal_reference_invalid`. -/
def expectedRecords : List ExpectedRecord :=
  [⟨.requested, .ok, 2, 2, 5, 1, objectTypeApprovalBroker, capabilityRightSubmitApproval⟩,
    ⟨.denied, .approvalDenied, 3, 1, 4, 1, objectTypeApprovalBroker, capabilityRightDecideApproval⟩,
    ⟨.requested, .ok, 4, 2, 5, 2, objectTypeApprovalBroker, capabilityRightSubmitApproval⟩,
    ⟨.approved, .ok, 5, 1, 4, 2, objectTypeApprovalBroker, capabilityRightDecideApproval⟩,
    ⟨.expired, .approvalExpired, 6, 1, 4, 2, objectTypeApprovalBroker,
      capabilityRightDecideApproval⟩,
    ⟨.requested, .ok, 7, 2, 5, 3, objectTypeApprovalBroker, capabilityRightSubmitApproval⟩,
    ⟨.approved, .ok, 8, 1, 4, 3, objectTypeApprovalBroker, capabilityRightDecideApproval⟩,
    ⟨.completed, .ok, 9, 1, 4, 3, objectTypeTestEffect, capabilityRightCommitEffect⟩,
    ⟨.requested, .ok, 10, 2, 5, 4, objectTypeApprovalBroker, capabilityRightSubmitApproval⟩,
    ⟨.approved, .ok, 11, 1, 4, 4, objectTypeApprovalBroker, capabilityRightDecideApproval⟩,
    ⟨.failed, .effectUnavailable, 12, 1, 4, 4, objectTypeTestEffect, capabilityRightCommitEffect⟩]

/-- `effect_record_mismatch`. -/
def effectRecordMismatch (record : EffectRecord) (recordSequence : UInt64)
    (expected : ExpectedRecord) : Bool :=
  record.schemaVersion ≠ effectRecordSchemaVersion
    ∨ record.byteSize ≠ effectRecordByteSize
    ∨ record.eventKind ≠ expected.kind.code
    ∨ record.status ≠ expected.status.code32
    ∨ record.recordSequence ≠ recordSequence
    ∨ record.decisionEpoch ≠ expected.epoch
    ∨ record.principalId ≠ principalId
    ∨ record.actorTaskId ≠ expected.actor
    ∨ record.actorTaskGeneration ≠ expected.actorGeneration
    ∨ record.subjectTaskId ≠ receiverTaskId
    ∨ record.subjectTaskGeneration ≠ workloadGeneration
    ∨ record.requestSequence ≠ expected.requestSequence
    ∨ record.actionId ≠ approvalActionIdCommitSyntheticValue
    ∨ record.capabilityObjectType ≠ expected.objectType
    ∨ record.reservedZero ≠ 0
    ∨ record.capabilityObjectId ≠ 1
    ∨ record.capabilityObjectGeneration ≠ effectJournalObjectGeneration
    ∨ record.capabilityRights ≠ expected.rights
    ∨ record.trailingReservedZero ≠ 0

/-- The loop of `journal_reference_invalid` from the record `recordSequence` on. -/
def referenceInvalidFrom (journal : EffectJournal) (recordSequence : UInt64) :
    List ExpectedRecord → Bool
  | [] => false
  | expected :: rest =>
    match journal.record recordSequence with
    | .error _ => true
    | .ok record =>
      effectRecordMismatch record recordSequence expected
        || referenceInvalidFrom journal (recordSequence + 1) rest

/-- `journal_reference_invalid`. -/
def journalReferenceInvalid (jr : JournaledRuntime) : Bool :=
  referenceInvalidFrom jr.journal 1 expectedRecords

/-! ## `scheduler_success` -/

/-- Why `scheduler_success` stops. -/
inductive FinalFailure where
  | finalRuntimeMissing
  | schedulerResidualState
  | journalReclamation
  deriving DecidableEq, Repr

/-- `KernelRuntime::kind`. -/
def kindOf : KernelRuntime → KernelRuntimeKind
  | .base rt => if rt.profile = .cooperative then .cooperative else .supervised
  | .journaled _ => .journaled

/-- The table of a task is dead and holds nothing. -/
def tableDead (k : KernelRuntime) (task : UInt64) : Bool :=
  match k.runtime.slot task with
  | .ok slot => slot.capabilities.state = .dead && slot.capabilities.liveSlots = 0
  | .error _ => false

variable {σ : Type}

/-- `common_invalid`. -/
def commonInvalid (d : DriverState σ) (k : KernelRuntime) : Bool :=
  k.validate ≠ .ok ()
    ∨ k.state senderTaskId ≠ .ok .dead
    ∨ k.state receiverTaskId ≠ .ok .dead
    ∨ k.generation senderTaskId ≠ .ok 0
    ∨ k.generation receiverTaskId ≠ .ok 0
    ∨ tableDead k senderTaskId = false
    ∨ tableDead k receiverTaskId = false
    ∨ k.runtime.queue.len ≠ 0
    ∨ k.runtime.queue.entries.toList ≠ [0, 0]
    ∨ k.runtime.endpoint.objectGeneration ≠ 0
    ∨ k.runtime.endpoint.senderTask ≠ 0
    ∨ k.runtime.endpoint.senderGeneration ≠ 0
    ∨ k.runtime.endpoint.receiverTask ≠ 0
    ∨ k.runtime.endpoint.receiverGeneration ≠ 0
    ∨ k.runtime.endpoint.occupied
    ∨ k.runtime.endpoint.payload ≠ 0
    ∨ d.owners.isEmpty = false
    ∨ d.currentTask ≠ 0
    ∨ d.activeContext.present

/-- What `profile_invalid` asks of the manifest, broker and effect of a supervised runtime. -/
def supervisedInvalid (rt : Runtime) : Bool :=
  rt.manifest.published
    ∨ rt.manifest.manifestId ≠ 0
    ∨ rt.broker.state ≠ .dead
    ∨ rt.broker.objectGeneration ≠ 0
    ∨ rt.broker.requestPresent
    ∨ rt.effect.objectGeneration ≠ 0
    ∨ rt.effect.occupied
    ∨ rt.effect.value ≠ 0

/-- `profile_invalid`. -/
def profileInvalid : KernelRuntime → Bool
  | .base rt =>
    if rt.profile = .cooperative then
      rt.manifest.published ∨ rt.broker.state ≠ .dead ∨ rt.effect.objectGeneration ≠ 0
    else supervisedInvalid rt
  | .journaled jr =>
    supervisedInvalid jr.runtime
      ∨ jr.journal.state ≠ .sealed
      ∨ jr.journal.objectGeneration ≠ effectJournalObjectGeneration
      ∨ jr.journal.committedRecordCount ≠ 11
      ∨ jr.journal.reservedRecordCount ≠ 0
      ∨ jr.journal.nextRecordSequence ≠ 12
      ∨ journalReferenceInvalid jr

/-- The reclamation in `scheduler_success`, and what it checks afterwards. -/
def reclaimed : KernelRuntime → Bool
  | .base _ => true
  | .journaled jr =>
    match JournaledRuntime.finishReclamation.run jr with
    | (.error _, _) => false
    | (.ok (), jr') => jr'.journal.state = .dead ∧ jr'.validate = .ok ()

/-- `scheduler_success`; the result says which of `capability_success`, `approval_success` and
`effect_journal_success` it ends with. -/
def schedulerSuccess : Method (DriverState σ) FinalFailure KernelRuntimeKind := do
  let d ← Method.self
  match d.runtime with
  | none => Method.fail .finalRuntimeMissing
  | some k =>
    if commonInvalid d k ∨ profileInvalid k then Method.fail .schedulerResidualState
    else if reclaimed k = false then Method.fail .journalReclamation
    else do
      Method.update fun d => { d with runtime := none }
      pure (kindOf k)

/-! ## What the driver is to do -/

/-- The calls of the runtime for one trap of the task in user mode: the trap, and where it lets a
task exit, both phases of the teardown of that task. -/
inductive Turn (frame : TrapFrame) : List KernelEvent → Prop where
  | goesOn {task : UInt64} {outcome : TrapOutcome} {before after : Runtime}
      (stays : ∀ t, outcome ≠ .exit t) : Turn frame [.trap task frame outcome before after]
  | exits {task exited : UInt64} {next : Option UInt64} {rt₀ rt₁ rt₂ rt₃ : Runtime} :
      Turn frame [.trap task frame (.exit exited) rt₀ rt₁, .beginTeardown exited rt₁ rt₂,
        .completeTeardown exited next rt₂ rt₃]

/-- The record that an entry of the table describes. -/
def ExpectedRecord.record (expected : ExpectedRecord) (recordSequence : UInt64) : EffectRecord where
  schemaVersion := effectRecordSchemaVersion
  byteSize := effectRecordByteSize
  eventKind := expected.kind.code
  status := expected.status.code32
  recordSequence := recordSequence
  decisionEpoch := expected.epoch
  principalId := principalId
  actorTaskId := expected.actor
  actorTaskGeneration := expected.actorGeneration
  subjectTaskId := receiverTaskId
  subjectTaskGeneration := workloadGeneration
  requestSequence := expected.requestSequence
  actionId := approvalActionIdCommitSyntheticValue
  capabilityObjectType := expected.objectType
  reservedZero := 0
  capabilityObjectId := 1
  capabilityObjectGeneration := effectJournalObjectGeneration
  capabilityRights := expected.rights
  trailingReservedZero := 0

/-- The records of the reference from the `n`-th on. -/
def referenceFrom (n : Nat) : List ExpectedRecord → List EffectRecord
  | [] => []
  | expected :: rest => expected.record (UInt64.ofNat (n + 1)) :: referenceFrom (n + 1) rest

/-- The journal has the records of the reference and no others. -/
def AsReference : KernelRuntime → Prop
  | .base _ => False
  | .journaled jr => jr.journal.committed = referenceFrom 0 expectedRecords

end MakopaVerified.Driver
