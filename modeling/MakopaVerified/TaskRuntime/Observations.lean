import MakopaVerified.TaskRuntime.Effects
import MakopaVerified.TaskRuntime.Kernel

/-!
# What a history shows

The messages that were sent and received, the tasks that were let go and the ones that were
dispatched, read off the registers of each trap and off what the tasks were told. Nothing here
looks at how the runtime came to its answer.
-/

namespace MakopaVerified.TaskRuntime

/-- The operation that a frame asks for. -/
def TrapFrame.operation (frame : TrapFrame) : Option TrapOperation := TrapOperation.parse frame.rax

/-- The saved registers of the task hold the status. -/
def Runtime.Told (rt : Runtime) (task : UInt64) (status : TrapStatus) : Prop :=
  (rt.input task).rax = status.code

instance (rt : Runtime) (task : UInt64) (status : TrapStatus) : Decidable (rt.Told task status) :=
  inferInstanceAs (Decidable (_ = _))

/-- The message in the endpoint. -/
def Runtime.message (rt : Runtime) : Option UInt64 :=
  if rt.endpoint.occupied then some rt.endpoint.payload else none

namespace KernelEvent

/-- The task that a trap lets exit. -/
def exits : KernelEvent → Option UInt64
  | .trap _ _ (.exit task) _ _ => some task
  | _ => none

/-- The task whose teardown begins. -/
def tearsDown : KernelEvent → Option UInt64
  | .beginTeardown task _ _ => some task
  | _ => none

/-- The task that gets the processor. -/
def dispatches : KernelEvent → Option UInt64
  | .trap _ _ (.switch task) _ _ => some task
  | .completeTeardown _ next _ _ => next
  | _ => none

/-- `task` gives the processor up: it yields, it blocks in a receive, or its teardown is complete. -/
def Releases (task : UInt64) : KernelEvent → Prop
  | .trap caller frame _ _ after =>
    caller = task ∧
      ((frame.operation = some .yield ∧ after.Told task .ok) ∨
        (frame.operation = some .receive ∧ (after.slotOf task).state = .blockedReceive))
  | .completeTeardown caller _ _ _ => caller = task
  | _ => False

/-! ## Messages -/

/-- The message of a send that is answered `Ok`. -/
def sent : KernelEvent → Option UInt64
  | .trap task frame _ _ after =>
    if task = senderTaskId ∧ frame.operation = some .send ∧ after.Told senderTaskId .ok then
      some frame.rsi
    else none
  | _ => none

/-- The status and the value that the receiver finds when a receive ends, at once or after it has
waited. -/
def hears : KernelEvent → Option (UInt64 × UInt64)
  | .trap task frame _ before after =>
    if (before.task1.state = .blockedReceive ∨
        task = receiverTaskId ∧ frame.operation = some .receive) ∧
        after.task1.state ≠ .blockedReceive then
      some (after.task1.context.rax, after.task1.context.rdx)
    else none
  | .beginTeardown _ before after | .completeTeardown _ _ before after =>
    if before.task1.state = .blockedReceive ∧ after.task1.state ≠ .blockedReceive then
      some (after.task1.context.rax, after.task1.context.rdx)
    else none
  | .finishReclamation => none

/-- The value that the receiver gets with status `Ok`. -/
def received (e : KernelEvent) : Option UInt64 :=
  match e.hears with
  | some (status, value) => if status = TrapStatus.ok.code then some value else none
  | none => none

/-- The receiver is told that the sender is gone. -/
def TellsPeerExited (e : KernelEvent) : Prop :=
  ∃ value, e.hears = some (TrapStatus.peerExited.code, value)

end KernelEvent

end MakopaVerified.TaskRuntime
