import MakopaVerified.TaskRuntime.Authority

/-!
# The counters of the broker

Requests are numbered by `next_sequence`, and `decision_epoch` counts the moves that the broker has
accepted. Both are of 64 bits. What a history has to say about them, up to the last epoch and past it.
-/

namespace MakopaVerified.TaskRuntime

open Foundation

/-- The number of accepted requests. -/
def submits (history : List KernelEvent) : Nat :=
  ((history.map KernelEvent.authority).filterMap ApprovalEvent.submits).length

/-- The number of accepted requests, decisions and commits. -/
def acceptances (history : List KernelEvent) : Nat :=
  (history.map KernelEvent.authority).countP ApprovalEvent.accepted

namespace KernelEvent

/-- The runtimes before and after a call. -/
def Between (before after : Runtime) : KernelEvent → Prop
  | .trap _ _ _ b a | .beginTeardown _ b a | .completeTeardown _ _ b a => b = before ∧ a = after
  | .finishReclamation => False

/-- A decision that nothing but the epochs stands against needs one that does not exist. An approval
needs two: its own and the one kept for its expiry. -/
def DecidesPastLast : KernelEvent → Prop
  | .trap task frame _ before _ =>
    frame.operation = some .decideApproval ∧
      before.decideStatus task frame.rdi frame.rsi frame.rdx = none ∧
      u64Max.toNat < before.broker.decisionEpoch.toNat +
        if frame.rdx = decisionApprove then 2 else 1
  | _ => False

/-- The broker closes, and the workload that waits for it is told that it is unavailable. -/
def ClosesBroker : KernelEvent → Prop
  | .trap task _ _ before after =>
    after.broker.state = .closing ∧ after.broker.requestPresent = false ∧
      before.task1.state = .blockedApproval ∧ after.task1.state = .ready ∧
      after.Told receiverTaskId .brokerUnavailable ∧ after.Told task .brokerUnavailable
  | _ => False

/-- A request is made in the last epoch. -/
def SubmitsAtLast : KernelEvent → Prop
  | .trap _ frame _ before _ =>
    frame.operation = some .submitApproval ∧ before.broker.decisionEpoch = u64Max
  | _ => False

/-- The caller goes on with an error, and broker and effect are as they were. -/
def Refused : KernelEvent → Prop
  | .trap task _ outcome before after =>
    outcome = .resume task ∧ ¬ after.Told task .ok ∧ after.broker = before.broker ∧
      after.effect = before.effect
  | _ => False

/-- Nothing is accepted, no request is stored and the effect is not filled. -/
structure Idle (e : KernelEvent) : Prop where
  accepted : e.authority.accepted = false
  stores : ∀ before after, e.Between before after → after.broker.requestPresent = true →
    before.broker.requestPresent = true ∧ after.broker.request = before.broker.request
  occupies : e.occupies = none

end KernelEvent

/-- What an event of a history does to the counters, and what comes after it. -/
structure CountersKept (earlier : List KernelEvent) (e : KernelEvent) (later : List KernelEvent) :
    Prop where
  /-- The accepted requests are numbered from one on. -/
  sequence : ∀ argument, e.authority = .submit argument → ∀ before after, e.Between before after →
    after.broker.request.sequence.toNat = submits earlier + 1
  /-- The epoch grows by one with what is accepted, and by nothing else. -/
  epoch : ∀ before after, e.Between before after → after.broker.state ≠ .dead →
    after.broker.decisionEpoch.toNat =
      before.broker.decisionEpoch.toNat + if e.authority.accepted then 1 else 0
  exhausted : e.DecidesPastLast → e.ClosesBroker ∧ ∀ e' ∈ later, e'.Idle
  refused : e.SubmitsAtLast → e.Refused ∧ ∀ e' ∈ later, e'.Idle

end MakopaVerified.TaskRuntime
