import MakopaVerified.TaskRuntime.Reads

/-!
# Saved registers

`TaskContextV1::validate`, the check that the kernel makes before it resumes a task, and what a
trap may write into the saved registers of the two tasks: a result in `rax` and `rdx`, and for the
operations that return three words also in `rdi` and `rsi`.
-/

namespace MakopaVerified.TaskRuntime

open Foundation

structure ContextPolicy where
  textStart : UInt64
  textEnd : UInt64
  stackStart : UInt64
  stackEnd : UInt64
  userCode : UInt64
  userData : UInt64
  deriving DecidableEq, Repr

inductive ContextError where
  | wrongTask | wrongGeneration | wrongRoot | invalidInstructionPointer | invalidStackPointer
  | invalidSelectors | invalidFlags
  deriving DecidableEq, Repr

/-- `is_canonical_48`. -/
def isCanonical48 (address : UInt64) : Bool :=
  let upper := address >>> 48
  let sign := (address >>> 47) &&& 1
  (sign = 0 ∧ upper = 0) ∨ (sign = 1 ∧ upper = 0xffff)

/-- The interrupt flag, the direction flag and the I/O privilege level. -/
def forbiddenRflags : UInt64 := ((1 : UInt64) <<< 9) ||| ((1 : UInt64) <<< 10) ||| ((3 : UInt64) <<< 12)

namespace TaskContext

/-- `TaskContextV1::validate`. -/
def validate (c : TaskContext) (expectedTask expectedGeneration expectedRoot : UInt64)
    (policy : ContextPolicy) : Except ContextError Unit :=
  if c.taskId ≠ expectedTask then .error .wrongTask
  else if c.generation = 0 ∨ c.generation ≠ expectedGeneration then .error .wrongGeneration
  else if c.root = 0 ∨ c.root ≠ expectedRoot ∨ c.root % 4096 ≠ 0 then .error .wrongRoot
  else if ¬ isCanonical48 c.rip ∨ c.rip < policy.textStart ∨ c.rip ≥ policy.textEnd then
    .error .invalidInstructionPointer
  else if ¬ isCanonical48 c.rsp ∨ c.rsp < policy.stackStart ∨ c.rsp > policy.stackEnd then
    .error .invalidStackPointer
  else if c.cs ≠ policy.userCode ∨ c.ss ≠ policy.userData then .error .invalidSelectors
  else if c.rflags &&& 0x2 = 0 ∨ c.rflags &&& forbiddenRflags ≠ 0 then .error .invalidFlags
  else .ok ()

/-- `c'` is `c` but for the result registers. -/
def SameButResult (c c' : TaskContext) : Prop := c' = { c with rax := c'.rax, rdx := c'.rdx }

/-- `c'` is `c` but for the registers of an operation that returns three words. -/
def SameButOutput (c c' : TaskContext) : Prop :=
  c' = { c with rax := c'.rax, rdi := c'.rdi, rsi := c'.rsi, rdx := c'.rdx }

end TaskContext

/-- A task that waits in a receive or for a decision. -/
def TaskState.Blocked (s : TaskState) : Prop := s = .blockedReceive ∨ s = .blockedApproval

/-- The trap is over for the caller: it has found its result and can go on. -/
def Runtime.Answered (rt : Runtime) (task : UInt64) : Prop :=
  (rt.slotOf task).state = .running ∨ (rt.slotOf task).state = .ready

/-- The supervisor decides an open request, and the broker has no epoch left for the decision or
for its expiry. -/
def Runtime.OutOfEpochs (rt : Runtime) (task : UInt64) : Prop :=
  task = senderTaskId ∧ rt.operation task = some .decideApproval ∧
    (rt.broker.state = .pending ∨ rt.broker.state = .approved) ∧
    (rt.broker.decisionEpoch = u64Max ∨ rt.broker.decisionEpoch + 1 = u64Max)

/-- The supervisor commits an approved request, and the effect is occupied. -/
def Runtime.MeetsOccupied (rt : Runtime) (task : UInt64) : Prop :=
  task = senderTaskId ∧ rt.operation task = some .commitEffect ∧ rt.broker.state = .approved ∧
    rt.effect.occupied = true

namespace KernelRuntime

/-- The kernel's runtime with other saved registers for a task, and nothing else changed. -/
def withContext (task : UInt64) (c : TaskContext) : KernelRuntime → KernelRuntime
  | base rt => base (Runtime.mapSlot task (TaskSlot.withContext c) rt)
  | journaled jr =>
    journaled { jr with runtime := Runtime.mapSlot task (TaskSlot.withContext c) jr.runtime }

end KernelRuntime

/-- The saved registers of `task` are replaced: it has run and traps again, or it is torn down. -/
def KernelEvent.Replaces (task : UInt64) : KernelEvent → Prop
  | .trap caller _ _ _ _ => caller = task
  | .completeTeardown caller _ _ _ => caller = task
  | .beginTeardown _ _ _ | .finishReclamation => False

/-- What a trap of `task`, which takes the kernel from `k` to `k'`, leaves alone. -/
structure TrapRegisters (kind : KernelRuntimeKind) (task : UInt64) (frame : TrapFrame)
    (k k' : KernelRuntime) : Prop where
  /-- The caller finds a result, of two registers for most operations. -/
  caller : (k.runtime.input task).SameButResult (k'.runtime.input task) ∨
    (k.runtime.input task).SameButOutput (k'.runtime.input task) ∧
      (frame.operation = some .inspectApproval ∧ k'.runtime.Told task .ok ∨
        kind = .journaled ∧ frame.ReadsJournal)
  /-- The peer finds one only when it is woken. -/
  peer : k'.runtime.input (peerOf task) = k.runtime.input (peerOf task) ∨
    (k.runtime.input (peerOf task)).SameButResult (k'.runtime.input (peerOf task)) ∧
      (k.runtime.slotOf (peerOf task)).state.Blocked ∧
      (k'.runtime.slotOf (peerOf task)).state = .ready
  /-- A rejected operation has no effect, but for two that close an open request. -/
  rejected : k'.runtime.Answered task → ¬ k'.runtime.Told task .ok →
    (∃ c, k' = k.withContext task c) ∨
      k.runtime.OutOfEpochs task ∧ k'.runtime.Told task .brokerUnavailable ∨
      kind = .journaled ∧ k.runtime.MeetsOccupied task ∧ k'.runtime.Told task .effectUnavailable

/-- What a trap leaves alone: registers that the kernel would resume also stay so until the task
has run. -/
structure TrapKeeps (kind : KernelRuntimeKind) (task : UInt64) (frame : TrapFrame)
    (k k' : KernelRuntime) : Prop extends TrapRegisters kind task frame k k' where
  accepted : ∀ t expectedTask expectedGeneration expectedRoot policy, KnownTask t →
    (k.runtime.input t).validate expectedTask expectedGeneration expectedRoot policy = .ok () →
    ∀ later k'', Steps (kernelSystem kind) k' later k'' → (∀ e ∈ later, ¬ e.Replaces t) →
      (k''.runtime.input t).validate expectedTask expectedGeneration expectedRoot policy = .ok ()

end MakopaVerified.TaskRuntime
