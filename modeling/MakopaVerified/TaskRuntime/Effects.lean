import MakopaVerified.TaskRuntime.Traps

/-!
# What one trap can do

`TrapEffect rt task outcome rt'` lists everything that a trap of the running task can do to a
runtime that is in service: the answer that the caller finds in its registers, the task that goes
on, and what became of the endpoint, the tables, the broker and the effect. Every invariant of the
runtime is proved over these cases and never over the operations themselves.
-/

namespace MakopaVerified.TaskRuntime

open Foundation

/-- One of the two task ids. -/
def KnownTask (task : UInt64) : Prop := task = senderTaskId ∨ task = receiverTaskId

/-- The other task. -/
def peerOf (task : UInt64) : UInt64 := if task = senderTaskId then receiverTaskId else senderTaskId

/-- The queue that holds the given tasks, head first. -/
def RunQueue.ofList : List UInt64 → RunQueue
  | [] => RunQueue.new
  | [a] => { entries := #v[a, 0], len := 1 }
  | a :: b :: _ => { entries := #v[a, b], len := 2 }

namespace TaskSlot

/-- The slot with other registers. -/
def withContext (context : TaskContext) (s : TaskSlot) : TaskSlot := { s with context := context }

/-- The slot with a result in its registers. -/
def answered (status : TrapStatus) (value : UInt64) (s : TaskSlot) : TaskSlot :=
  s.withContext (s.context.setResult status value)

/-- The slot in another state. -/
def withState (state : TaskState) (s : TaskSlot) : TaskSlot := { s with state := state }

/-- The slot with another table. -/
def withTable (table : CapabilityTable) (s : TaskSlot) : TaskSlot :=
  { s with capabilities := table }

/-- The slot of a task that is told a result and made ready. -/
def woken (status : TrapStatus) (value : UInt64) (s : TaskSlot) : TaskSlot :=
  (s.answered status value).withState .ready

/-- The slot of a task whose teardown is complete. -/
def buried (s : TaskSlot) : TaskSlot :=
  { s with
    state := .dead
    generation := 0
    context := TaskContext.clearDead
    capabilities := CapabilityTable.dead }

end TaskSlot

/-! ## Table changes -/

namespace CapabilityTable

/-- What a successful `duplicate` does: a free slot takes an endpoint entry with fewer rights. -/
structure Duplicated (requested : UInt64) (t t' : CapabilityTable) : Prop where
  intro ::
  live : t.state = .live
  exists_source : ∃ (source i : Fin capabilitySlotCount) (entry : CapabilityEntry),
    (t.slotAt source).entry = some entry ∧
    (t.slotAt i).isFree = true ∧ entry.objectType = objectTypeEndpoint ∧
    validRights objectTypeEndpoint requested = true ∧ requested &&& ~~~entry.rights = 0 ∧
    t' = setEntry i { entry with rights := requested } t

/-- What a successful `close` does: one occupied slot loses its entry. -/
structure Closed (t t' : CapabilityTable) : Prop where
  intro ::
  live : t.state = .live
  exists_slot : ∃ i : Fin capabilitySlotCount, (t.slotAt i).entry ≠ none ∧
    t' = { t with slots := t.slots.set i (t.slotAt i).removeEntry i.isLt }

/-- The table that `mark_closing` and `close_all` leave. -/
def closed (t : CapabilityTable) : CapabilityTable :=
  { t with
    state := .closing
    slots := t.slots.map fun s => if s.entry.isSome then s.removeEntry else s }

/-- What a launch does to the workload's table: the one route of the registered manifest is
installed and the table goes live. -/
structure Launched (t t' : CapabilityTable) : Prop where
  intro ::
  building : t.state = .building
  exists_slot : ∃ i : Fin capabilitySlotCount, (t.slotAt i).isFree = true ∧
    t' = { setEntry i
            { taskId := t.taskId
              taskGeneration := t.taskGeneration
              objectType := objectTypeApprovalBroker
              rights := capabilityRightSubmitApproval
              object := { id := approvalBrokerObjectId, generation := fixedObjectGeneration } }
            t with state := .live }

end CapabilityTable

namespace Runtime

/-- The slot of a known task. -/
def slotOf (rt : Runtime) (task : UInt64) : TaskSlot :=
  if task = senderTaskId then rt.task0 else rt.task1

/-- The registers of a task, as its last trap left them. -/
def input (rt : Runtime) (task : UInt64) : TaskContext := (rt.slotOf task).context

/-- The operation that a task asks for. -/
def operation (rt : Runtime) (task : UInt64) : Option TrapOperation :=
  TrapOperation.parse (rt.input task).rax

/-- `task` is the running one. -/
def Running (rt : Runtime) (task : UInt64) : Prop :=
  (task = senderTaskId ∧ rt.task0.state = .running) ∨
    (task = receiverTaskId ∧ rt.task1.state = .running)

end Runtime

/-! ## Traps -/

inductive TrapEffect (rt : Runtime) (task : UInt64) : TrapOutcome → Runtime → Prop where
  /-- The operation is rejected: the caller finds the status and goes on. -/
  | refused {status : TrapStatus} (ne_ok : status ≠ .ok) (unexpired : status ≠ .approvalExpired)
      (receiving : rt.operation task = some .receive →
        rt.receiveStatus task (rt.input task).rdi (rt.input task).rsi (rt.input task).rdx
            = some status
          ∨ status = .peerExited ∧ rt.endpoint.occupied = false
            ∧ rt.endpoint.senderGeneration = 0) :
      TrapEffect rt task (.resume task) (Runtime.mapSlot task (TaskSlot.answered status 0) rt)
  /-- A yield with nobody else ready comes back to the caller. -/
  | kept (op : rt.operation task = some .yield) (alone : rt.queue = RunQueue.ofList []) :
      TrapEffect rt task (.switch task) (Runtime.mapSlot task (TaskSlot.answered .ok 0) rt)
  /-- A yield hands over to the other task. -/
  | yielded {peer : UInt64} (op : rt.operation task = some .yield) (other : peer ≠ task)
      (known : KnownTask peer) (waiting : rt.queue = RunQueue.ofList [peer]) :
      TrapEffect rt task (.switch peer)
        (Runtime.mapSlot peer (TaskSlot.withState .running)
          (Runtime.mapSlot task (TaskSlot.woken .ok 0) { rt with queue := RunQueue.ofList [task] }))
  /-- A message is accepted and left in the endpoint. -/
  | stored (op : rt.operation task = some .send) (sender : task = senderTaskId)
      (bound : rt.endpoint.receiverGeneration ≠ 0) (vacant : rt.endpoint.occupied = false)
      (awake : rt.task1.state ≠ .blockedReceive) :
      TrapEffect rt task (.resume task)
        { rt with
          task0 := rt.task0.answered .ok 0
          endpoint :=
            { rt.endpoint with occupied := true, payload := (rt.input senderTaskId).rsi } }
  /-- A message is accepted and handed to the receiver that waits for it. -/
  | delivered (op : rt.operation task = some .send) (sender : task = senderTaskId)
      (vacant : rt.endpoint.occupied = false) (blocked : rt.task1.state = .blockedReceive) :
      TrapEffect rt task (.resume task)
        { rt with
          task0 := rt.task0.answered .ok 0
          task1 := rt.task1.woken .ok (rt.input senderTaskId).rsi
          queue := RunQueue.ofList [receiverTaskId]
          endpoint := { rt.endpoint with occupied := false, payload := 0 } }
  /-- The receiver takes the message that is there. -/
  | took (op : rt.operation task = some .receive) (receiver : task = receiverTaskId)
      (occupied : rt.endpoint.occupied = true) :
      TrapEffect rt task (.resume task)
        { rt with
          task1 := rt.task1.answered .ok rt.endpoint.payload
          endpoint := { rt.endpoint with occupied := false, payload := 0 } }
  /-- The receiver waits, and the sender goes on. -/
  | blocked (op : rt.operation task = some .receive) (receiver : task = receiverTaskId)
      (vacant : rt.endpoint.occupied = false) (bound : rt.endpoint.senderGeneration ≠ 0)
      (waiting : rt.queue = RunQueue.ofList [senderTaskId]) :
      TrapEffect rt task (.switch senderTaskId)
        { rt with
          task0 := rt.task0.withState .running
          task1 := rt.task1.withState .blockedReceive
          queue := RunQueue.ofList [] }
  /-- The caller exits. -/
  | exited (op : rt.operation task = some .exit) :
      TrapEffect rt task (.exit task) (Runtime.mapSlot task (TaskSlot.withState .exited) rt)
  /-- The caller gets a further handle for its endpoint. -/
  | duplicated {handle : UInt64} {table : CapabilityTable}
      (op : rt.operation task = some .duplicate)
      (change : CapabilityTable.Duplicated (rt.input task).rsi (rt.slotOf task).capabilities table) :
      TrapEffect rt task (.resume task)
        (Runtime.mapSlot task (fun s => (s.withTable table).answered .ok handle) rt)
  /-- The caller closes a handle. -/
  | closed {table : CapabilityTable} (op : rt.operation task = some .close)
      (change : CapabilityTable.Closed (rt.slotOf task).capabilities table) :
      TrapEffect rt task (.resume task)
        (Runtime.mapSlot task (fun s => (s.withTable table).answered .ok 0) rt)
  /-- The supervisor launches the staged workload. -/
  | launched {table : CapabilityTable} (op : rt.operation task = some .startWorkload)
      (supervisor : task = senderTaskId) (supervised : rt.profile = .supervised)
      (staged : rt.task1.state = .staged)
      (change : CapabilityTable.Launched rt.task1.capabilities table) :
      TrapEffect rt task (.resume task)
        { rt with
          task0 := rt.task0.answered .ok 0
          task1 := (rt.task1.withTable table).withState .ready
          manifest := ManifestPublication.registered
          queue := RunQueue.ofList [receiverTaskId] }
  /-- The workload's request is accepted: it waits for the decision, and the supervisor goes on. -/
  | submitted (op : rt.operation task = some .submitApproval) (workload : task = receiverTaskId)
      (supervised : rt.profile = .supervised) (idle : rt.broker.state = .empty)
      (kind : (rt.input receiverTaskId).rsi = approvalRequestKindCommitSyntheticValue)
      (unexhausted : rt.broker.sequenceExhausted = false)
      (epoch : rt.broker.decisionEpoch ≠ u64Max)
      (waiting : rt.queue = RunQueue.ofList [senderTaskId]) :
      TrapEffect rt task (.switch senderTaskId)
        { rt with
          task0 := rt.task0.withState .running
          task1 := rt.task1.withState .blockedApproval
          broker := rt.broker.submit (rt.input receiverTaskId).rsi (rt.input receiverTaskId).rdx
            (rt.broker.decisionEpoch + 1)
          queue := RunQueue.ofList [] }
  /-- The supervisor reads the pending request. -/
  | inspected (op : rt.operation task = some .inspectApproval)
      (supervised : rt.profile = .supervised) (pending : rt.broker.state = .pending) :
      TrapEffect rt task (.resume task)
        (Runtime.mapSlot task (fun s => s.withContext
          { s.context with
            rax := TrapStatus.ok.code
            rdi := rt.broker.request.sequence
            rsi := rt.broker.requestKind
            rdx := rt.broker.request.argument }) rt)
  /-- The supervisor approves the pending request. -/
  | approved (op : rt.operation task = some .decideApproval) (supervisor : task = senderTaskId)
      (supervised : rt.profile = .supervised) (pending : rt.broker.state = .pending)
      (names : rt.broker.request.sequence = (rt.input senderTaskId).rsi)
      (decision : (rt.input senderTaskId).rdx = decisionApprove)
      (epoch : rt.broker.decisionEpoch ≠ u64Max) (expiry : rt.broker.decisionEpoch + 1 ≠ u64Max) :
      TrapEffect rt task (.resume task)
        { rt with
          task0 := rt.task0.answered .ok 0
          broker := rt.broker.approve (rt.broker.decisionEpoch + 1) }
  /-- The supervisor denies or expires the request; the workload is told so. -/
  | concluded {status : TrapStatus} (op : rt.operation task = some .decideApproval)
      (supervisor : task = senderTaskId) (supervised : rt.profile = .supervised)
      (open_request : rt.broker.state = .pending ∨ rt.broker.state = .approved)
      (names : rt.broker.request.sequence = (rt.input senderTaskId).rsi)
      (decision : ((rt.input senderTaskId).rdx = decisionDeny ∧ status = .approvalDenied
          ∧ rt.broker.state = .pending)
        ∨ ((rt.input senderTaskId).rdx = decisionExpire ∧ status = .approvalExpired))
      (epoch : rt.broker.decisionEpoch ≠ u64Max) :
      TrapEffect rt task (.resume task)
        { rt with
          task0 := rt.task0.answered .ok 0
          task1 := rt.task1.woken status 0
          broker := rt.broker.conclude (rt.broker.decisionEpoch + 1)
          queue := RunQueue.ofList [receiverTaskId] }
  /-- A decision meets the end of the epoch counter: the broker closes. -/
  | exhausted (op : rt.operation task = some .decideApproval) (supervisor : task = senderTaskId)
      (supervised : rt.profile = .supervised)
      (open_request : rt.broker.state = .pending ∨ rt.broker.state = .approved)
      (epoch : rt.broker.decisionEpoch = u64Max ∨ rt.broker.decisionEpoch + 1 = u64Max) :
      TrapEffect rt task (.resume task)
        { rt with
          task0 := rt.task0.answered .brokerUnavailable 0
          task1 := rt.task1.woken .brokerUnavailable 0
          broker := { rt.broker.clearRequest with state := .closing }
          queue := RunQueue.ofList [receiverTaskId] }
  /-- The supervisor commits the approved request. -/
  | committed (op : rt.operation task = some .commitEffect) (supervisor : task = senderTaskId)
      (supervised : rt.profile = .supervised) (approval : rt.broker.state = .approved)
      (names : rt.broker.request.sequence = (rt.input senderTaskId).rsi)
      (argument : rt.broker.request.argument = (rt.input senderTaskId).rdx)
      (vacant : rt.effect.occupied = false) (bound : rt.effect.objectGeneration ≠ 0)
      (epoch : rt.broker.decisionEpoch ≠ u64Max) :
      TrapEffect rt task (.resume task)
        { rt with
          task0 := rt.task0.answered .ok 0
          task1 := rt.task1.woken .ok (rt.input senderTaskId).rdx
          effect := { rt.effect with occupied := true, value := (rt.input senderTaskId).rdx }
          broker := rt.broker.conclude (rt.broker.decisionEpoch + 1)
          queue := RunQueue.ofList [receiverTaskId] }

/-! ## Teardown -/

/-- What `begin_teardown` does: the handles of the task are closed and it leaves the endpoint or
the broker; a peer that waits for it is woken. -/
inductive TeardownBegun (rt : Runtime) : UInt64 → Runtime → Prop where
  | sender (cooperative : rt.profile = .cooperative)
      (quiet : ¬ (rt.endpoint.occupied = false ∧ rt.task1.state = .blockedReceive)) :
      TeardownBegun rt senderTaskId
        { rt with
          task0 := rt.task0.withTable rt.task0.capabilities.closed
          endpoint := { rt.endpoint with senderTask := 0, senderGeneration := 0 } }
  | senderWakes (cooperative : rt.profile = .cooperative)
      (vacant : rt.endpoint.occupied = false) (blocked : rt.task1.state = .blockedReceive) :
      TeardownBegun rt senderTaskId
        { rt with
          task0 := rt.task0.withTable rt.task0.capabilities.closed
          task1 := rt.task1.woken .peerExited 0
          queue := RunQueue.ofList [receiverTaskId]
          endpoint := { rt.endpoint with senderTask := 0, senderGeneration := 0 } }
  | receiver (cooperative : rt.profile = .cooperative) :
      TeardownBegun rt receiverTaskId
        (Runtime.releaseReceiver
          { rt with task1 := rt.task1.withTable rt.task1.capabilities.closed })
  | supervisor (supervised : rt.profile = .supervised)
      (quiet : rt.task1.state ≠ .blockedApproval) :
      TeardownBegun rt senderTaskId
        { rt with
          task0 := rt.task0.withTable rt.task0.capabilities.closed
          broker :=
            { rt.broker.clearRequest with
              state := .closing
              supervisorTaskId := 0
              supervisorGeneration := 0 }
          effect := SyntheticEffect.empty }
  | supervisorWakes {status : TrapStatus} (supervised : rt.profile = .supervised)
      (blocked : rt.task1.state = .blockedApproval)
      (told : (rt.broker.state = .pending ∧ status = .approvalDenied)
        ∨ (rt.broker.state = .approved ∧ status = .approvalExpired)) :
      TeardownBegun rt senderTaskId
        { rt with
          task0 := rt.task0.withTable rt.task0.capabilities.closed
          task1 := rt.task1.woken status 0
          queue := RunQueue.ofList [receiverTaskId]
          broker :=
            { rt.broker.clearRequest with
              state := .closing
              supervisorTaskId := 0
              supervisorGeneration := 0 }
          effect := SyntheticEffect.empty }
  | workload (supervised : rt.profile = .supervised) :
      TeardownBegun rt receiverTaskId
        (Runtime.releaseWorkload
          { rt with task1 := rt.task1.withTable rt.task1.capabilities.closed })

/-- The runtime of `complete_teardown` before its dispatch. -/
def Runtime.buried (rt : Runtime) (task : UInt64) : Runtime :=
  let rt := Runtime.mapSlot task TaskSlot.buried rt
  let rt :=
    if rt.profile = .supervised ∧ task = senderTaskId then
      { rt with broker := ApprovalBroker.dead, effect := SyntheticEffect.empty }
    else rt
  if rt.tasks.all fun s => s.state = .dead then
    { rt with
      endpoint := Endpoint.empty
      manifest := ManifestPublication.empty
      broker := ApprovalBroker.dead
      effect := SyntheticEffect.empty }
  else rt

/-- What `complete_teardown` does: the task is dead, and its peer goes on if it is ready. -/
inductive TeardownCompleted (rt : Runtime) (task : UInt64) : Option UInt64 → Runtime → Prop where
  | finished (dead : (rt.slotOf (peerOf task)).state = .dead) :
      TeardownCompleted rt task none (rt.buried task)
  | handedOver (ready : (rt.slotOf (peerOf task)).state = .ready) :
      TeardownCompleted rt task (some (peerOf task))
        (Runtime.mapSlot (peerOf task) (TaskSlot.withState .running)
          { rt.buried task with queue := RunQueue.ofList [] })

end MakopaVerified.TaskRuntime
