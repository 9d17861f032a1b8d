import MakopaVerified.AddressSpace.Build
import MakopaVerified.TaskRuntime.Contexts

/-!
# The scheduler's driver

`kernel/src/arch_x86_64.rs` around a task runtime: it builds the two address spaces, publishes the
runtime with the first contexts, enters user mode, takes the traps and tears an exited task's address
space down. The statics of the source are the fields of `DriverState`, and `kernel_failure(message)`
is an error. The backend of the address spaces is a parameter; it is made with the flag
`journaled_probes`. What `scheduler_success` checks at the end is in `Success.lean`.
-/

namespace MakopaVerified.Driver

open Foundation AddressSpace TaskRuntime

def userDataSelector : UInt64 := 0x1b
def userCodeSelector : UInt64 := 0x23
def senderGeneration : UInt64 := 2
def receiverGeneration : UInt64 := 3

/-- `size_of::<TrapFrameV1>()`. -/
def trapFrameSize : UInt64 := 160

/-- Why the kernel stops. -/
inductive KernelFailure where
  | recoveryRoot (kind : KernelRuntimeKind)
  | publicationState (kind : KernelRuntimeKind)
  | firstAddressSpace (kind : KernelRuntimeKind)
  | secondAddressSpace (kind : KernelRuntimeKind)
  | constructionRollback (kind : KernelRuntimeKind)
  | firstRootMissing (kind : KernelRuntimeKind)
  | secondRootMissing (kind : KernelRuntimeKind)
  | publicationRollback (kind : KernelRuntimeKind)
  | initialContext (kind : KernelRuntimeKind)
  | initialDispatch (kind : KernelRuntimeKind)
  | taskRuntimeMissing
  | schedulerSelectedState
  | taskGenerationMissing
  | taskOwnerMissing
  | taskRootMissing
  | taskOwnerState
  | taskContextMissing
  | taskContextValidation
  | taskOwnerActivation
  | trapRecoveryBoundary
  | trapRuntimeMissing
  | trapRunningTask
  | trapOwnerMissing
  | trapOwnerInactive
  | trapRootMissing
  | trapActiveOwner
  | trapContextCapture
  | trapStateTransition
  | teardownRuntimeMissing
  | handleFirstTeardown
  | exitedOwnerMissing
  | exitedOwnerActive
  | exitedOwnerTeardown
  | exitedOwnershipRemains
  | teardownStateTransition
  | panicked
  deriving DecidableEq, Repr

/-! ## The statics -/

structure RecoveryState where
  root : UInt64
  temporaryPte : UInt64
  poolUsed : Nat
  ready : Bool
  deriving DecidableEq, Repr

structure ActiveContext where
  present : Bool
  task : UInt64
  taskRoot : UInt64
  recoveryRoot : UInt64
  recoveryStack : UInt64
  continuation : UInt64
  deriving DecidableEq, Repr

/-- `ActiveContext::new`. -/
def ActiveContext.new : ActiveContext := ⟨false, 0, 0, 0, 0, 0⟩

structure TaskOwners where
  sender : Option AddressSpaceOwner
  receiver : Option AddressSpaceOwner
  deriving DecidableEq, Repr

namespace TaskOwners

/-- `TaskOwners::new`. -/
def new : TaskOwners := ⟨none, none⟩

/-- The owner that `TaskOwners::get_mut` refers to. -/
def get (owners : TaskOwners) (task : UInt64) : Option AddressSpaceOwner :=
  if task = senderTaskId then owners.sender
  else if task = receiverTaskId then owners.receiver
  else none

/-- A write through the reference of `TaskOwners::get_mut`, or what `TaskOwners::take` leaves. -/
def put (owners : TaskOwners) (task : UInt64) (owner : Option AddressSpaceOwner) : TaskOwners :=
  if task = senderTaskId then { owners with sender := owner }
  else if task = receiverTaskId then { owners with receiver := owner }
  else owners

/-- `TaskOwners::is_empty`. -/
def isEmpty (owners : TaskOwners) : Bool := owners.sender.isNone && owners.receiver.isNone

end TaskOwners

/-- The statics of the driver, the register CR3 and the backend. -/
structure DriverState (σ : Type) where
  recovery : RecoveryState
  cr3 : UInt64
  taskOwner : Option AddressSpaceOwner
  runtime : Option KernelRuntime
  owners : TaskOwners
  currentTask : UInt64
  activeContext : ActiveContext
  backend : σ

/-! ## Contexts -/

/-- `task_context_policy`. -/
def taskContextPolicy : ContextPolicy where
  textStart := userText
  textEnd := userText + pageSize
  stackStart := userStack
  stackEnd := userStackTop
  userCode := userCodeSelector
  userData := userDataSelector

/-- `TaskContextV1::initial` with the arguments of the schedulers. -/
def initialContext (task generation root : UInt64) : TaskContext :=
  TaskContext.initial task generation root userText userStackTop userCodeSelector userDataSelector

/-- The generations of the two address spaces of a profile. -/
def generations : KernelRuntimeKind → UInt64 × UInt64
  | .cooperative => (senderGeneration, receiverGeneration)
  | .supervised => (supervisorGeneration, workloadGeneration)
  | .journaled => (supervisorGeneration, workloadGeneration)

/-- `contexts_valid`. -/
def contextsValid (kind : KernelRuntimeKind) (firstRoot secondRoot : UInt64) : Bool :=
  (initialContext senderTaskId (generations kind).1 firstRoot).validate senderTaskId
      (generations kind).1 firstRoot taskContextPolicy = .ok ()
    && (initialContext receiverTaskId (generations kind).2 secondRoot).validate receiverTaskId
      (generations kind).2 secondRoot taskContextPolicy = .ok ()

/-- The runtime that a scheduler publishes for the roots of its two address spaces. -/
def initialRuntime (kind : KernelRuntimeKind) (firstRoot secondRoot : UInt64) :
    Except RuntimeError KernelRuntime :=
  KernelRuntime.publish kind (initialContext senderTaskId (generations kind).1 firstRoot)
    (initialContext receiverTaskId (generations kind).2 secondRoot)

section

variable {σ ε α : Type}

/-! ## `resume_scheduled_task` -/

/-- `call().unwrap_or_else(|| kernel_failure(..))`. -/
def orFail (value : Option α) (failure : KernelFailure) :
    Method (DriverState σ) KernelFailure α :=
  match value with
  | some a => pure a
  | none => Method.fail failure

/-- `resume_scheduled_task`, up to the `iretq` of `makopa_resume_task`. -/
def resumeScheduledTask (task : UInt64) : Method (DriverState σ) KernelFailure Unit := do
  let d ← Method.self
  let runtime ← orFail d.runtime .taskRuntimeMissing
  if runtime.runningTask ≠ .ok task ∨ runtime.state task ≠ .ok .running then
    Method.fail .schedulerSelectedState
  else do
    let generation ← orFail (runtime.generation task).toOption .taskGenerationMissing
    let owner ← orFail (d.owners.get task) .taskOwnerMissing
    let root ← orFail owner.root .taskRootMissing
    if owner.state ≠ .inactive ∨ owner.generation ≠ generation then Method.fail .taskOwnerState
    else do
      let context ← orFail (runtime.runtime.context task).toOption .taskContextMissing
      if context.validate task generation root taskContextPolicy ≠ .ok () then
        Method.fail .taskContextValidation
      else
        match AddressSpaceOwner.activate.run owner with
        | (.error _, _) => Method.fail .taskOwnerActivation
        | (.ok (), owner) =>
          Method.update fun d =>
            { d with
              owners := d.owners.put task (some owner)
              currentTask := task
              activeContext := ⟨true, task, root, d.recovery.root, recoveryStackTop, 0⟩
              cr3 := context.root }

/-! ## `teardown_exited_task` -/

/-- How the driver ends: the task whose turn it is runs in user mode, or there is none any more. -/
inductive DriverEnd where
  | user
  | finished
  deriving DecidableEq, Repr

/-- `match next { Some(task) => resume_scheduled_task(task), None => scheduler_success() }`. -/
def resumeNext : Option UInt64 → Method (DriverState σ) KernelFailure DriverEnd
  | some task => do
    resumeScheduledTask task
    pure .user
  | none => pure .finished

/-- The runtime that a call leaves. -/
def DriverState.withRuntime (k : KernelRuntime) (d : DriverState σ) : DriverState σ :=
  { d with runtime := some k }

/-- The driver with no task in user mode. -/
def DriverState.left (d : DriverState σ) : DriverState σ :=
  { d with currentTask := 0, activeContext := ActiveContext.new }

/-- `teardown_exited_task` from the take of the owner on, with the backend `B`. -/
def teardownExitedOwner (B : AddressSpaceBackend σ ε) (task : UInt64) :
    Method (DriverState σ) KernelFailure DriverEnd := do
  let d ← Method.self
  let owner ← orFail (d.owners.get task) .exitedOwnerMissing
  Method.update fun d => { d with owners := d.owners.put task none }
  if owner.state ≠ .inactive then Method.fail .exitedOwnerActive
  else
    match (teardownChecked B owner).run d.backend with
    | (.error .panicked, _) => Method.fail .panicked
    | (.error (.failed _), _) => Method.fail .exitedOwnerTeardown
    | (.ok dead, backend) => do
      Method.update fun d => { d with backend := backend }
      if dead.state ≠ .dead ∨ dead.ledger.frames ≠ [] then Method.fail .exitedOwnershipRemains
      else do
        let runtime ← orFail d.runtime .teardownRuntimeMissing
        match (KernelRuntime.completeTeardown task).run runtime with
        | (.error _, _) => Method.fail .teardownStateTransition
        | (.ok next, runtime) => do
          Method.update (DriverState.withRuntime runtime)
          resumeNext next

/-- The handles of the exited task are closed first. -/
def handlesClosed (k : KernelRuntime) (task : UInt64) : Bool :=
  match k.runtime.slot task with
  | .ok slot => slot.capabilities.state = .closing && slot.capabilities.liveSlots = 0
  | .error _ => false

/-- `teardown_exited_task`. -/
def teardownExitedTask (B : AddressSpaceBackend σ ε) (task : UInt64) :
    Method (DriverState σ) KernelFailure DriverEnd := do
  let d ← Method.self
  let runtime ← orFail d.runtime .teardownRuntimeMissing
  match (KernelRuntime.beginTeardown task).run runtime with
  | (.error _, _) => Method.fail .handleFirstTeardown
  | (.ok (), runtime) =>
    if handlesClosed runtime task = false then Method.fail .handleFirstTeardown
    else do
      Method.update fun d => (d.withRuntime runtime).left
      teardownExitedOwner B task

/-! ## `makopa_task_trap_dispatch` -/

/-- What `makopa_task_trap_trampoline` does before the dispatch: the root of the recovery context is
loaded. The frame is at the top of the recovery stack. -/
def DriverState.trapped (d : DriverState σ) : DriverState σ := { d with cr3 := d.recovery.root }

/-- The end of `makopa_task_trap_dispatch`: what the outcome of the trap asks for. -/
def followOutcome (B : AddressSpaceBackend σ ε) :
    TrapOutcome → Method (DriverState σ) KernelFailure DriverEnd
  | .resume next => do
    Method.update DriverState.left
    resumeScheduledTask next
    pure .user
  | .switch next => do
    Method.update DriverState.left
    resumeScheduledTask next
    pure .user
  | .exit exited => teardownExitedTask B exited

/-- `makopa_task_trap_dispatch` for a frame at `frameAddress`. -/
def taskTrapDispatch (B : AddressSpaceBackend σ ε) (frameAddress : UInt64) (frame : TrapFrame) :
    Method (DriverState σ) KernelFailure DriverEnd := do
  let d ← Method.self
  if d.cr3 ≠ d.recovery.root ∨ frameAddress < recoveryStackBase
      ∨ ¬ (checkedAdd frameAddress trapFrameSize).any (· ≤ recoveryStackTop)
      ∨ frameAddress % 8 ≠ 0 then
    Method.fail .trapRecoveryBoundary
  else do
    let task := d.currentTask
    let runtime ← orFail d.runtime .trapRuntimeMissing
    if runtime.runningTask ≠ .ok task then Method.fail .trapRunningTask
    else do
      let owner ← orFail (d.owners.get task) .trapOwnerMissing
      if owner.state ≠ .active then Method.fail .trapOwnerInactive
      else do
        let root ← orFail owner.root .trapRootMissing
        if d.activeContext.present = false ∨ d.activeContext.task ≠ task
            ∨ d.activeContext.taskRoot ≠ root ∨ d.activeContext.recoveryRoot ≠ d.recovery.root
            ∨ d.activeContext.recoveryStack ≠ recoveryStackTop ∨ d.activeContext.continuation ≠ 0 then
          Method.fail .trapActiveOwner
        else
          match AddressSpaceOwner.recover.run owner,
              (KernelRuntime.captureTrap task frame root owner.generation).run runtime with
          | (.ok (), recovered), (.ok (), runtime) => do
            let context ← orFail (runtime.runtime.context task).toOption .trapContextCapture
            if context.validate task owner.generation root taskContextPolicy ≠ .ok () then
              Method.fail .trapContextCapture
            else
              match (KernelRuntime.handleTrap task).run runtime with
              | (.error _, _) => Method.fail .trapStateTransition
              | (.ok outcome, runtime) => do
                Method.update fun d =>
                  { d with
                    runtime := some runtime
                    owners := d.owners.put task (some recovered) }
                followOutcome B outcome
          | _, _ => Method.fail .trapContextCapture

/-- A trap of the task in user mode. -/
def takeTrap (B : AddressSpaceBackend σ ε) (frame : TrapFrame) :
    Method (DriverState σ) KernelFailure DriverEnd := do
  Method.update DriverState.trapped
  taskTrapDispatch B (recoveryStackTop - trapFrameSize) frame

/-! ## `run_scheduler`, `run_supervised_scheduler`, `run_journaled_scheduler` -/

/-- The failure for a pair that could not be built. -/
def pairFailure (kind : KernelRuntimeKind) : Stop (PairBuildFailure ε) → KernelFailure
  | .panicked => .panicked
  | .failed (.first failure) =>
    if failure.rollbackError.isNone ∧ failure.retained.frames = [] then .firstAddressSpace kind
    else .constructionRollback kind
  | .failed (.second second firstTeardown) =>
    if second.rollbackError.isNone ∧ second.retained.frames = [] ∧ firstTeardown.isNone then
      .secondAddressSpace kind
    else .constructionRollback kind

/-- A call of the backend from the driver. -/
def onDriverBackend {ε' : Type} (err : ε' → KernelFailure) (m : Method σ ε' α) :
    Method (DriverState σ) KernelFailure α :=
  Method.onPart (·.backend) (fun backend d => { d with backend := backend }) err m

/-- `teardown_checked(owner, &mut backend).is_ok()`. -/
def tornDown (B : AddressSpaceBackend σ ε) (owner : AddressSpaceOwner) :
    Method (DriverState σ) KernelFailure Bool := do
  match ← onDriverBackend (fun failure : KernelFailure => failure)
      (Method.attempt (teardownChecked B owner)) with
  | .ok _ => pure true
  | .error (.failed _) => pure false
  | .error .panicked => Method.fail .panicked

/-- Both address spaces go, the second first, when the first contexts are refused. -/
def withdrawPair (B : AddressSpaceBackend σ ε) (kind : KernelRuntimeKind) (pair : AddressSpacePair) :
    Method (DriverState σ) KernelFailure α := do
  let secondOk ← tornDown B pair.second
  let firstOk ← tornDown B pair.first
  if secondOk = false ∨ firstOk = false then Method.fail (.publicationRollback kind)
  else Method.fail (.initialContext kind)

/-- The first dispatch. The schedulers with a supervisor ask for it to be the supervisor. -/
def firstDispatch (kind : KernelRuntimeKind) (runtime : KernelRuntime) :
    Except KernelFailure (UInt64 × KernelRuntime) :=
  match KernelRuntime.dispatchNext.run runtime with
  | (.ok (some next), runtime) =>
    if kind = .cooperative ∨ next = senderTaskId then .ok (next, runtime)
    else .error (.initialDispatch kind)
  | _ => .error (.initialDispatch kind)

/-- `run_scheduler`, `run_supervised_scheduler` and `run_journaled_scheduler`, which differ in the
constructor of the runtime, in the generations and in the messages. -/
def runScheduler (B : AddressSpaceBackend σ ε) (kind : KernelRuntimeKind) :
    Method (DriverState σ) KernelFailure Unit := do
  let d ← Method.self
  if d.recovery.ready = false ∨ d.cr3 ≠ d.recovery.root then Method.fail (.recoveryRoot kind)
  else if d.taskOwner.isSome ∨ d.runtime.isSome ∨ d.owners.isEmpty = false then
    Method.fail (.publicationState kind)
  else do
    let pair ← onDriverBackend (pairFailure kind)
      (constructAddressSpacePair B (generations kind).1 (generations kind).2)
    let firstRoot ← orFail pair.first.root (.firstRootMissing kind)
    let secondRoot ← orFail pair.second.root (.secondRootMissing kind)
    match contextsValid kind firstRoot secondRoot, initialRuntime kind firstRoot secondRoot with
    | true, .ok runtime =>
      match firstDispatch kind runtime with
      | .error failure => Method.fail failure
      | .ok (next, runtime) => do
        Method.update fun d =>
          { d with
            owners := ⟨some pair.first, some pair.second⟩
            runtime := some runtime }
        resumeScheduledTask next
    | _, _ => withdrawPair B kind pair

end

end MakopaVerified.Driver
