import MakopaVerified.Foundation.Approval
import MakopaVerified.TaskRuntime.Observations

/-!
# Who may fill the effect

The supervised profiles read as the protocol of single-use approvals. Each event of a run is mapped
to an event of the protocol by the registers of the trap and by what the tasks were told, and a
runtime stands for a state of the protocol.
-/

namespace MakopaVerified.TaskRuntime

open Foundation

namespace KernelEvent

/-- What an event is for the protocol. A request is accepted when its caller is made to wait for the
decision; a decision and a commit count when they are answered `Ok`. -/
def authority : KernelEvent → ApprovalEvent UInt64
  | .trap task frame _ before after =>
    if task = receiverTaskId ∧ frame.operation = some .submitApproval
        ∧ after.task1.state = .blockedApproval then
      .submit frame.rdx
    else if task = senderTaskId ∧ frame.operation = some .decideApproval
        ∧ after.Told senderTaskId .ok then
      if frame.rdx = decisionApprove ∧ before.broker.state = .pending then
        .approve frame.rsi.toNat
      else .reject frame.rsi.toNat
    else if task = senderTaskId ∧ frame.operation = some .commitEffect
        ∧ after.Told senderTaskId .ok then
      .commit frame.rsi.toNat frame.rdx
    else if before.broker.requestPresent = true ∧ after.broker.requestPresent = false then
      if frame.operation = some .commitEffect then .waste before.broker.request.sequence.toNat
      else .withdraw
    else .other
  | .beginTeardown task _ _ => if task = senderTaskId then .shut else .withdraw
  | .completeTeardown _ _ _ _ | .finishReclamation => .other

/-- The value with which the effect goes from empty to occupied. -/
def occupies : KernelEvent → Option UInt64
  | .trap _ _ _ before after | .beginTeardown _ before after
  | .completeTeardown _ _ before after =>
    if before.effect.occupied = false ∧ after.effect.occupied = true then some after.effect.value
    else none
  | .finishReclamation => none

end KernelEvent

/-- The request that a broker holds. -/
def ApprovalBroker.openRequest (b : ApprovalBroker) : Option (OpenRequest UInt64) :=
  if b.requestPresent = true then
    some ⟨b.request.sequence.toNat, b.request.argument, b.state = .approved⟩
  else none

/-- The value that an effect holds. -/
def SyntheticEffect.cell (e : SyntheticEffect) : Option UInt64 :=
  if e.occupied = true then some e.value else none

/-- The broker has accepted `n` requests. -/
def ApprovalBroker.Counts (b : ApprovalBroker) (n : Nat) : Prop :=
  b.state ≠ .dead →
    if b.sequenceExhausted = true then n = u64Max.toNat else b.nextSequence.toNat = n + 1

/-- The runtime stands for a state of the protocol. -/
structure Represents (rt : Runtime) (a : Approvals UInt64) : Prop where
  request : a.request = rt.broker.openRequest
  cell : a.cell = rt.effect.cell
  shut : a.shut = true ↔ rt.task0.capabilities.state ≠ .live
  shut_empty : a.shut = true → a.cell = none
  counts : rt.broker.Counts a.submitted

end MakopaVerified.TaskRuntime
