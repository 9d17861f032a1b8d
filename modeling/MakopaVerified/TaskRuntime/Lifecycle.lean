import MakopaVerified.TaskRuntime.Observations

/-!
# The grammar of the journal

What the committed records of a journaled runtime are meant to say, read from the first to the
last: one lifecycle after another, each of them a request with its decision and its outcome. The
wrapper never looks at its own history in this way; that it nevertheless keeps to the grammar is
proved in `Proofs/LifecycleProofs.lean`.
-/

namespace MakopaVerified.TaskRuntime

/-- The lifecycles of a request that has come to its end. -/
def finishedLifecycles : List (List EffectEventKind) :=
  [[.requested, .denied], [.requested, .expired], [.requested, .approved, .completed],
    [.requested, .approved, .failed], [.requested, .approved, .expired]]

/-- The lifecycles of a request that is still open. -/
def openLifecycles : List (List EffectEventKind) := [[.requested], [.requested, .approved]]

namespace EffectRecord

/-- The record names `task` in `generation` as the actor, with a right on an object. -/
def Names (r : EffectRecord) (task generation : UInt64) (objectType : UInt32)
    (objectId objectGeneration rights : UInt64) : Prop :=
  r.actorTaskId = task ∧ r.actorTaskGeneration = generation ∧ r.capabilityObjectType = objectType
    ∧ r.capabilityObjectId = objectId ∧ r.capabilityObjectGeneration = objectGeneration
    ∧ r.capabilityRights = rights

/-- The kernel itself is the actor: no task, no generation and no right. -/
def ByKernel (r : EffectRecord) : Prop :=
  r.Names 0 0 objectTypeApprovalBroker approvalBrokerObjectId fixedObjectGeneration 0

/-- The supervisor decided through its handle for the broker. -/
def ByDecision (r : EffectRecord) : Prop :=
  r.Names senderTaskId supervisorGeneration objectTypeApprovalBroker approvalBrokerObjectId
    fixedObjectGeneration capabilityRightDecideApproval

/-- The supervisor acted through its handle for the effect. -/
def ByCommit (r : EffectRecord) : Prop :=
  r.Names senderTaskId supervisorGeneration objectTypeTestEffect testEffectObjectId
    fixedObjectGeneration capabilityRightCommitEffect

/-- The workload acted through its handle for the broker. -/
def BySubmit (r : EffectRecord) : Prop :=
  r.Names receiverTaskId workloadGeneration objectTypeApprovalBroker approvalBrokerObjectId
    fixedObjectGeneration capabilityRightSubmitApproval

/-- Who may have performed a step of the given kind. -/
def Performed (r : EffectRecord) : EffectEventKind → Prop
  | .requested => r.BySubmit
  | .approved => r.ByDecision
  | .denied | .expired => r.ByDecision ∨ r.ByKernel
  | .completed | .failed => r.ByCommit

/-- The record names the task that made the call, and the object and right that its operation goes
through. -/
def NamesOperation (r : EffectRecord) (task generation : UInt64) : Option TrapOperation → Prop
  | some .submitApproval =>
    r.Names task generation objectTypeApprovalBroker approvalBrokerObjectId fixedObjectGeneration
      capabilityRightSubmitApproval
  | some .decideApproval =>
    r.Names task generation objectTypeApprovalBroker approvalBrokerObjectId fixedObjectGeneration
      capabilityRightDecideApproval
  | some .commitEffect =>
    r.Names task generation objectTypeTestEffect testEffectObjectId fixedObjectGeneration
      capabilityRightCommitEffect
  | _ => False

end EffectRecord

/-- The records spell out the given steps of the request `sequence`. -/
def Spells (sequence : Nat) (kinds : List EffectEventKind) (records : List EffectRecord) : Prop :=
  List.Forall₂ (fun kind r => r.eventKind = kind.code ∧ r.requestSequence.toNat = sequence
    ∧ r.Performed kind) kinds records

/-- The committed records follow the grammar, and the broker, its epoch and the reservation agree
with them. -/
structure JournalGrammar (jr : JournaledRuntime) : Prop where
  /-- Finished lifecycles in the order of their sequences, and at most one that is still open. -/
  lifecycles : ∃ finished : List (List EffectRecord), ∃ current : List EffectRecord,
    jr.journal.committed = finished.flatten ++ current ∧
    (∀ k (h : k < finished.length), ∃ kinds ∈ finishedLifecycles, Spells (k + 1) kinds finished[k]) ∧
    (current = [] ∨ ∃ kinds ∈ openLifecycles, Spells (finished.length + 1) kinds current)
  count : jr.journal.committedRecordCount = jr.journal.committed.length
  /-- The `i`-th record, counted from one, carries sequence `i` and epoch `i + 1`. -/
  position : ∀ i (h : i < jr.journal.committed.length),
    jr.journal.committed[i].recordSequence.toNat = i + 1 ∧
      jr.journal.committed[i].decisionEpoch.toNat = i + 2
  epoch : jr.runtime.broker.state ≠ .dead →
    jr.runtime.broker.decisionEpoch.toNat = jr.journal.committedRecordCount + 1
  reserved_two : jr.journal.reservedRecordCount = 2 ↔
    jr.runtime.broker.state = .pending ∧
      ∃ r ∈ jr.journal.committed.getLast?, r.eventKind = EffectEventKind.requested.code
  reserved_one : jr.journal.reservedRecordCount = 1 ↔
    jr.runtime.broker.state = .approved ∧
      ∃ r ∈ jr.journal.committed.getLast?, r.eventKind = EffectEventKind.approved.code
  reserved_le : jr.journal.reservedRecordCount ≤ 2
  capacity : jr.journal.committedRecordCount + jr.journal.reservedRecordCount ≤
    effectJournalRecordCount
  /-- The kernel is an actor in the last record only, and only once the journal is sealed. -/
  kernel_last : ∀ i (h : i < jr.journal.committed.length),
    jr.journal.committed[i].actorTaskId = 0 →
      i + 1 = jr.journal.committed.length ∧ jr.journal.state = .sealed

/-- What one call of the kernel may do to the committed records. -/
inductive JournalStep (jr : JournaledRuntime) : KernelEvent → JournaledRuntime → Prop where
  | unchanged {e : KernelEvent} {jr' : JournaledRuntime}
      (same : jr'.journal.committed = jr.journal.committed) : JournalStep jr e jr'
  /-- A trap adds the record of its own operation. -/
  | recorded {task : UInt64} {frame : TrapFrame} {outcome : TrapOutcome} {before after : Runtime}
      {jr' : JournaledRuntime} {r : EffectRecord} (live : jr.journal.state = .live)
      (adds : jr'.journal.committed = jr.journal.committed ++ [r])
      (names : r.NamesOperation task (before.slotOf task).generation frame.operation) :
      JournalStep jr (.trap task frame outcome before after) jr'
  /-- A teardown adds the kernel's record and seals the journal. -/
  | closed {task : UInt64} {before after : Runtime} {jr' : JournaledRuntime} {r : EffectRecord}
      (live : jr.journal.state = .live)
      (adds : jr'.journal.committed = jr.journal.committed ++ [r]) (kernel : r.ByKernel)
      (final : jr'.journal.state = .sealed) :
      JournalStep jr (.beginTeardown task before after) jr'
  /-- The reclamation at the end clears the journal. -/
  | reclaimed {jr' : JournaledRuntime} (empty : jr'.journal = EffectJournal.dead) :
      JournalStep jr .finishReclamation jr'

end MakopaVerified.TaskRuntime
