import MakopaVerified.AddressSpace.Proofs.ReleaseProofs
import MakopaVerified.Driver.Scheduler

/-!
# The scheduler and the owners of the address spaces

What the driver's globals have to say about the two tasks at every entry to user mode, and how a trap
of the task in user mode may end. The backend of the address spaces is any; a run of the driver
starts with one of the schedulers and goes on with the traps of the task in user mode.
-/

namespace MakopaVerified.Driver

open Foundation AddressSpace TaskRuntime

variable {σ ε : Type}

/-- The state of the scheduler and the ownership of the address spaces belong together. -/
structure Paired (d : DriverState σ) (k : KernelRuntime) : Prop where
  published : d.runtime = some k
  /-- `CURRENT_TASK` runs, and no other task does. -/
  running : ∀ t, k.state t = .ok .running ↔ t = d.currentTask
  /-- Its owner is active, and its root is that of `ACTIVE_CONTEXT`. -/
  active : ∃ owner root, d.owners.get d.currentTask = some owner ∧ owner.state = .active ∧
    owner.root = some root ∧
    d.activeContext = ⟨true, d.currentTask, root, d.recovery.root, recoveryStackTop, 0⟩ ∧
    d.cr3 = root
  inactive : ∀ t, KnownTask t → t ≠ d.currentTask → (k.runtime.slotOf t).state ≠ .dead →
    ∃ owner, d.owners.get t = some owner ∧ owner.state = .inactive
  dead : ∀ t, KnownTask t → (k.runtime.slotOf t).state = .dead → d.owners.get t = none
  agrees : ∀ t owner, KnownTask t → d.owners.get t = some owner →
    owner.generation = (k.runtime.slotOf t).generation ∧
      owner.root = some (k.runtime.slotOf t).context.root

/-- The registers of the frame make a context of the task in user mode that `TaskContextV1::validate`
accepts. -/
def FrameAccepted (d : DriverState σ) (frame : TrapFrame) : Prop :=
  ∃ owner root, d.owners.get d.currentTask = some owner ∧ owner.root = some root ∧
    (TaskContext.fromTrap frame d.currentTask owner.generation root).validate d.currentTask
      owner.generation root taskContextPolicy = .ok ()

/-- A scheduler starts, and then the task in user mode traps again and again. -/
def driverSystem (B : AddressSpaceBackend σ ε) (kind : KernelRuntimeKind) :
    System (DriverState σ) TrapFrame where
  init d := ∃ d₀, (runScheduler B kind).run d₀ = (.ok (), d)
  step d frame d' := FrameAccepted d frame ∧ (takeTrap B frame).run d = (.ok .user, d')

/-- A failure that a scheduler may have before it enters user mode: the recovery context or the
globals are not as they should be, an address space could not be built, or its root is zero. -/
def KernelFailure.BeforeUser (kind : KernelRuntimeKind) (failure : KernelFailure) : Prop :=
  failure ∈ [.recoveryRoot kind, .publicationState kind, .firstAddressSpace kind,
    .secondAddressSpace kind, .constructionRollback kind, .publicationRollback kind,
    .initialContext kind]

/-- How a trap of the task in user mode may end: in user mode again; with both tasks dead; with an
error of the backend in the teardown of the exited task; or because a supervisor has exited that never
launched the workload. -/
inductive TrapEnd (B : AddressSpaceBackend σ ε) (d : DriverState σ) (k : KernelRuntime) :
    Except KernelFailure DriverEnd → DriverState σ → Prop where
  | user {d' : DriverState σ} : TrapEnd B d k (.ok .user) d'
  | finished {d' : DriverState σ} {k' : KernelRuntime} (published : d'.runtime = some k')
      (dead : k'.runtime.task0.state = .dead ∧ k'.runtime.task1.state = .dead)
      (empty : d'.owners = TaskOwners.new) : TrapEnd B d k (.ok .finished) d'
  | stopped {d' : DriverState σ} {owner : AddressSpaceOwner} {failure : TeardownFailure ε}
      {backend : σ} (taken : d.owners.get d.currentTask = some owner)
      (failed : (teardownChecked B { owner with state := .inactive }).run d.backend =
        (.error (.failed (.backend failure)), backend))
      (refused : Refused B failure.error backend) :
      TrapEnd B d k (.error .exitedOwnerTeardown) d'
  | unlaunched {d' : DriverState σ} (supervisor : d.currentTask = senderTaskId)
      (staged : k.runtime.task1.state = .staged) :
      TrapEnd B d k (.error .teardownStateTransition) d'

end MakopaVerified.Driver
