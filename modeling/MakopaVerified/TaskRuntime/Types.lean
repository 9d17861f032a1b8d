import MakopaVerified.Foundation.Words
import MakopaVerified.Foundation.Method

/-!
# Fixed identities, trap numbers and task contexts

The constants and plain records of `crates/task-runtime`: task and object identities, capability
rights, the operation and status numbers of the trap ABI, and the saved integer context of a task.
-/

namespace MakopaVerified.TaskRuntime

open Foundation

/-! ## Constants -/

abbrev taskCount : Nat := 2
abbrev senderTaskId : UInt64 := 1
abbrev receiverTaskId : UInt64 := 2
abbrev endpointId : UInt64 := 1
abbrev endpointGeneration : UInt64 := 1
abbrev capabilitySlotCount : Nat := 16
abbrev capabilitySlotBits : UInt64 := 4
abbrev capabilityGenerationMax : UInt64 := 0x0fffffffffffffff
abbrev capabilityRightSend : UInt64 := 0x01
abbrev capabilityRightReceive : UInt64 := 0x02
abbrev capabilityRightDuplicate : UInt64 := 0x04
abbrev capabilityRightStart : UInt64 := 0x08
abbrev capabilityRightSubmitApproval : UInt64 := 0x10
abbrev capabilityRightDecideApproval : UInt64 := 0x20
abbrev capabilityRightCommitEffect : UInt64 := 0x40
abbrev capabilityRightReadEffectJournal : UInt64 := 0x80
abbrev capabilityRightsV1 : UInt64 := 0xff
abbrev supervisorJournalHandle : UInt64 := 0x13
abbrev supervisorGeneration : UInt64 := 4
abbrev workloadGeneration : UInt64 := 5
abbrev manifestSchemaVersion : UInt32 := 1
abbrev manifestByteSize : UInt32 := 184
abbrev manifestRouteCountMax : Nat := 4
abbrev manifestId : UInt64 := 1
abbrev principalId : UInt64 := 1
abbrev workloadImageId : UInt64 := 1
abbrev taskControlObjectId : UInt64 := 1
abbrev approvalBrokerObjectId : UInt64 := 1
abbrev testEffectObjectId : UInt64 := 1
abbrev effectJournalObjectId : UInt64 := 1
abbrev fixedObjectGeneration : UInt64 := 1
abbrev approvalRequestKindCommitSyntheticValue : UInt64 := 1
abbrev approvalActionIdCommitSyntheticValue : UInt64 := 1
abbrev decisionDeny : UInt64 := 0
abbrev decisionApprove : UInt64 := 1
abbrev decisionExpire : UInt64 := 2
abbrev objectTypeEndpoint : UInt32 := 1
abbrev objectTypeTaskControl : UInt32 := 2
abbrev objectTypeApprovalBroker : UInt32 := 3
abbrev objectTypeTestEffect : UInt32 := 4
abbrev objectTypeEffectJournal : UInt32 := 5

/-! ## States, operations, statuses and errors -/

inductive TaskState where
  | staged | ready | running | blockedReceive | blockedApproval | exited | dead
  deriving DecidableEq, Repr

inductive TrapOperation where
  | yield | send | receive | exit | duplicate | close | startWorkload | submitApproval
  | inspectApproval | decideApproval | commitEffect | inspectEffectJournal | readEffectRecord
  deriving DecidableEq, Repr

/-- `TrapOperation::parse`: the operation number in `rax`. -/
def TrapOperation.parse (value : UInt64) : Option TrapOperation :=
  if value = 0 then some .yield
  else if value = 1 then some .send
  else if value = 2 then some .receive
  else if value = 3 then some .exit
  else if value = 4 then some .duplicate
  else if value = 5 then some .close
  else if value = 6 then some .startWorkload
  else if value = 7 then some .submitApproval
  else if value = 8 then some .inspectApproval
  else if value = 9 then some .decideApproval
  else if value = 10 then some .commitEffect
  else if value = 11 then some .inspectEffectJournal
  else if value = 12 then some .readEffectRecord
  else none

inductive TrapStatus where
  | ok | invalidOperation | invalidEndpoint | wrongRole | slotFull | peerExited | invalidHandle
  | wrongObject | rightsDenied | invalidRights | handleTableFull | generationExhausted
  | invalidManifest | invalidRequest | brokerFull | approvalMismatch | approvalDenied
  | approvalExpired | effectUnavailable | brokerUnavailable | alreadyLaunched | journalFull
  | journalUnavailable | invalidRecord
  deriving DecidableEq, Repr

/-- The discriminant of a status, `status as u64`. -/
def TrapStatus.code : TrapStatus → UInt64
  | ok => 0 | invalidOperation => 1 | invalidEndpoint => 2 | wrongRole => 3 | slotFull => 4
  | peerExited => 5 | invalidHandle => 6 | wrongObject => 7 | rightsDenied => 8
  | invalidRights => 9 | handleTableFull => 10 | generationExhausted => 11 | invalidManifest => 12
  | invalidRequest => 13 | brokerFull => 14 | approvalMismatch => 15 | approvalDenied => 16
  | approvalExpired => 17 | effectUnavailable => 18 | brokerUnavailable => 19
  | alreadyLaunched => 20 | journalFull => 21 | journalUnavailable => 22 | invalidRecord => 23

/-- `status as u32`. -/
def TrapStatus.code32 (status : TrapStatus) : UInt32 := status.code.toUInt32

theorem TrapStatus.code_injective {a b : TrapStatus} (h : a.code = b.code) : a = b := by
  cases a <;> cases b <;> first | rfl | exact absurd h (by decide)

@[simp]
theorem TrapStatus.code_inj {a b : TrapStatus} : a.code = b.code ↔ a = b :=
  ⟨TrapStatus.code_injective, fun h => h ▸ rfl⟩

inductive RuntimeError where
  | invalidTask | invalidGeneration | duplicateGeneration | wrongState | noRunningTask
  | multipleRunningTasks | queueFull | duplicateQueueMember | invalidQueueMember
  | missingQueueMember | endpointInvariant | noRunnableTask | capabilityInvariant
  | manifestInvariant | brokerInvariant | effectInvariant | journalInvariant | publicationFailure
  deriving DecidableEq, Repr

inductive TrapOutcome where
  | resume (task : UInt64)
  | switch (task : UInt64)
  | exit (task : UInt64)
  deriving DecidableEq, Repr

inductive RuntimeProfile where
  | cooperative | supervised
  deriving DecidableEq, Repr

/-! ## Task contexts -/

/-- `TrapFrameV1`: the registers pushed by the trap trampoline. -/
structure TrapFrame where
  rax : UInt64
  rbx : UInt64
  rcx : UInt64
  rdx : UInt64
  rbp : UInt64
  rsi : UInt64
  rdi : UInt64
  r8 : UInt64
  r9 : UInt64
  r10 : UInt64
  r11 : UInt64
  r12 : UInt64
  r13 : UInt64
  r14 : UInt64
  r15 : UInt64
  rip : UInt64
  cs : UInt64
  rflags : UInt64
  rsp : UInt64
  ss : UInt64
  deriving DecidableEq, Repr

/-- `TaskContextV1`: the saved integer context of one task. -/
structure TaskContext where
  rax : UInt64
  rbx : UInt64
  rcx : UInt64
  rdx : UInt64
  rbp : UInt64
  rsi : UInt64
  rdi : UInt64
  r8 : UInt64
  r9 : UInt64
  r10 : UInt64
  r11 : UInt64
  r12 : UInt64
  r13 : UInt64
  r14 : UInt64
  r15 : UInt64
  rip : UInt64
  rsp : UInt64
  rflags : UInt64
  cs : UInt64
  ss : UInt64
  root : UInt64
  taskId : UInt64
  generation : UInt64
  deriving DecidableEq, Repr

/-- `TaskContextV1::initial`. -/
def TaskContext.initial (taskId generation root rip rsp cs ss : UInt64) : TaskContext where
  rax := 0
  rbx := 0
  rcx := 0
  rdx := 0
  rbp := 0
  rsi := 0
  rdi := 0
  r8 := 0
  r9 := 0
  r10 := 0
  r11 := 0
  r12 := 0
  r13 := 0
  r14 := 0
  r15 := 0
  rip := rip
  rsp := rsp
  rflags := 0x2
  cs := cs
  ss := ss
  root := root
  taskId := taskId
  generation := generation

/-- `TaskContextV1::from_trap`. -/
def TaskContext.fromTrap (frame : TrapFrame) (taskId generation root : UInt64) : TaskContext where
  rax := frame.rax
  rbx := frame.rbx
  rcx := frame.rcx
  rdx := frame.rdx
  rbp := frame.rbp
  rsi := frame.rsi
  rdi := frame.rdi
  r8 := frame.r8
  r9 := frame.r9
  r10 := frame.r10
  r11 := frame.r11
  r12 := frame.r12
  r13 := frame.r13
  r14 := frame.r14
  r15 := frame.r15
  rip := frame.rip
  rsp := frame.rsp
  rflags := frame.rflags
  cs := frame.cs
  ss := frame.ss
  root := root
  taskId := taskId
  generation := generation

/-- `TaskContextV1::set_result`: the status in `rax`, the value in `rdx`. -/
def TaskContext.setResult (status : TrapStatus) (value : UInt64) (c : TaskContext) : TaskContext :=
  { c with rax := status.code, rdx := value }

/-- `TaskContextV1::clear_dead`. -/
def TaskContext.clearDead : TaskContext := TaskContext.initial 0 0 0 0 0 0 0

end MakopaVerified.TaskRuntime
