import MakopaVerified.TaskRuntime.Effects
import MakopaVerified.TaskRuntime.Kernel

/-!
# What is left at the end

The value that a profile comes back to: when both tasks are dead, and when a publication is rolled
back. And what it means that a runtime no longer refers to a task. Nothing in the source states
either; it only checks some of the fields.
-/

namespace MakopaVerified.TaskRuntime

open Foundation

/-! ## The final value of a profile -/

/-- A slot with nothing left in it but its id. -/
def TaskSlot.cleared (id : UInt64) : TaskSlot where
  id := id
  generation := 0
  state := .dead
  context := TaskContext.clearDead
  capabilities := CapabilityTable.dead

/-- The runtime with nothing left in it. -/
def Runtime.cleared (profile : RuntimeProfile) : Runtime where
  profile := profile
  task0 := TaskSlot.cleared senderTaskId
  task1 := TaskSlot.cleared receiverTaskId
  queue := RunQueue.new
  endpoint := Endpoint.empty
  manifest := ManifestPublication.empty
  broker := ApprovalBroker.dead
  effect := SyntheticEffect.empty

/-- The runtime of the journaled profile with nothing left in it. -/
def JournaledRuntime.cleared : JournaledRuntime where
  runtime := Runtime.cleared .supervised
  journal := EffectJournal.dead

/-- Both tasks are dead. -/
def Runtime.AllDead (rt : Runtime) : Prop := rt.task0.state = .dead ∧ rt.task1.state = .dead

namespace KernelRuntime

/-- The value that a profile comes back to. -/
def final : KernelRuntimeKind → KernelRuntime
  | .cooperative => base (Runtime.cleared .cooperative)
  | .supervised => base (Runtime.cleared .supervised)
  | .journaled => journaled JournaledRuntime.cleared

/-- `if let KernelRuntime::Journaled(journaled) = runtime { journaled.finish_reclamation() }` of
`scheduler_success`. -/
def finishReclamation : Method KernelRuntime RuntimeError Unit :=
  call (pure ()) JournaledRuntime.finishReclamation

/-- The publication of a profile from its two contexts: how it ends, and the runtime it leaves. -/
def publication (kind : KernelRuntimeKind) (failBeforeStep : Option Nat)
    (first second : TaskContext) : Except RuntimeError Unit × KernelRuntime :=
  match kind with
  | .cooperative =>
    let (result, rt) :=
      (Runtime.publishInitial failBeforeStep).run (Runtime.unpublished first second)
    (result, base rt)
  | .supervised =>
    let (result, rt) :=
      (Runtime.publishSupervisor failBeforeStep).run (Runtime.unpublishedSupervised first second)
    (result, base rt)
  | .journaled =>
    let (result, jr) :=
      (JournaledRuntime.publishSupervisor failBeforeStep).run
        { runtime := Runtime.unpublishedSupervised first second
          journal := EffectJournal.building }
    (result, journaled jr)

/-- How many steps of its publication a profile can be made to fail before. -/
def publicationSteps : KernelRuntimeKind → Nat
  | .cooperative => 3
  | .supervised => 5
  | .journaled => 7

end KernelRuntime

/-! ## References to a task -/

namespace Runtime

/-- The teardown of `task` has begun: its table is closing, or dead. -/
def Released (rt : Runtime) (task : UInt64) : Prop :=
  (rt.slotOf task).capabilities.state = .closing ∨ (rt.slotOf task).capabilities.state = .dead

/-- Nothing in the runtime but the slot of `task` itself refers to it. An entry of a table refers
to the task that it was issued to. -/
structure Forgets (rt : Runtime) (task : UInt64) : Prop where
  queue : task ∉ rt.queue.entries
  sender_side : rt.endpoint.senderTask ≠ task
  receiver_side : rt.endpoint.receiverTask ≠ task
  request : rt.broker.request.workloadTaskId ≠ task
  supervisor_binding : rt.broker.supervisorTaskId ≠ task
  workload_binding : rt.broker.workloadTaskId ≠ task
  manifest : rt.manifest.targetTaskId ≠ task
  effect_owner : rt.effect.supervisorTaskId ≠ task
  entries : ∀ s ∈ rt.tasks, ∀ slot ∈ s.capabilities.slots, ∀ entry, slot.entry = some entry →
    entry.taskId ≠ task

/-- What the invariants of the profiles leave open: a dead slot is cleared altogether, and the
broker and the effect are bound to tasks whose teardown has not begun. -/
structure Tidy (rt : Runtime) : Prop where
  dead_slots : ∀ task, KnownTask task → (rt.slotOf task).state = .dead →
    rt.slotOf task = TaskSlot.cleared task
  supervisor : rt.broker.supervisorTaskId = 0 ∨
    rt.broker.supervisorTaskId = senderTaskId ∧ ¬ rt.Released senderTaskId
  workload : rt.broker.workloadTaskId = 0 ∨
    rt.broker.workloadTaskId = receiverTaskId ∧ ¬ rt.Released receiverTaskId
  effect : rt.Released senderTaskId → rt.effect = SyntheticEffect.empty

end Runtime

end MakopaVerified.TaskRuntime
