import MakopaVerified.TaskRuntime.Effects
import MakopaVerified.TaskRuntime.Proofs.ValidateProofs
import MakopaVerified.TaskRuntime.Proofs.TableProofs

/-!
# Slots, dispatch and capture

How the small steps that every operation is made of run: reading and writing a slot, calling the
table of a slot, dispatching the head of the queue and capturing a trap.
-/

namespace MakopaVerified.TaskRuntime

open Foundation Method

/-- The slot after its registers have been captured. -/
def TaskSlot.captured (task root gen : UInt64) (frame : TrapFrame) (s : TaskSlot) : TaskSlot :=
  s.withContext (TaskContext.fromTrap frame task gen root)

theorem TaskSlot.withState_self {s : TaskSlot} {state : TaskState} (h : s.state = state) :
    s.withState state = s := by
  subst h
  rfl

namespace Runtime

@[simp]
theorem slotOf_sender (rt : Runtime) : rt.slotOf senderTaskId = rt.task0 := rfl

@[simp]
theorem slotOf_receiver (rt : Runtime) : rt.slotOf receiverTaskId = rt.task1 := rfl

@[simp]
theorem mapSlot_sender (f : TaskSlot → TaskSlot) (rt : Runtime) :
    mapSlot senderTaskId f rt = { rt with task0 := f rt.task0 } := rfl

@[simp]
theorem mapSlot_receiver (f : TaskSlot → TaskSlot) (rt : Runtime) :
    mapSlot receiverTaskId f rt = { rt with task1 := f rt.task1 } := rfl

theorem mapSlot_mapSlot (task : UInt64) (f g : TaskSlot → TaskSlot) (rt : Runtime) :
    mapSlot task f (mapSlot task g rt) = mapSlot task (fun s => f (g s)) rt := by
  unfold mapSlot
  split
  · rfl
  · split <;> rfl

section Frame

variable (task : UInt64) (f : TaskSlot → TaskSlot) (rt : Runtime)

@[simp]
theorem mapSlot_profile : (mapSlot task f rt).profile = rt.profile := by
  unfold mapSlot
  split
  · rfl
  · split <;> rfl

@[simp]
theorem mapSlot_queue : (mapSlot task f rt).queue = rt.queue := by
  unfold mapSlot
  split
  · rfl
  · split <;> rfl

@[simp]
theorem mapSlot_endpoint : (mapSlot task f rt).endpoint = rt.endpoint := by
  unfold mapSlot
  split
  · rfl
  · split <;> rfl

@[simp]
theorem mapSlot_broker : (mapSlot task f rt).broker = rt.broker := by
  unfold mapSlot
  split
  · rfl
  · split <;> rfl

@[simp]
theorem mapSlot_effect : (mapSlot task f rt).effect = rt.effect := by
  unfold mapSlot
  split
  · rfl
  · split <;> rfl

end Frame

variable {rt : Runtime} {task : UInt64}

theorem slot_of_known (h : KnownTask task) : rt.slot task = .ok (rt.slotOf task) := by
  rcases h with rfl | rfl <;> rfl

theorem known_of_slot {s : TaskSlot} (h : rt.slot task = .ok s) : KnownTask task := by
  by_contra hne
  unfold KnownTask at hne
  rw [not_or] at hne
  unfold slot at h
  rw [if_neg hne.1, if_neg hne.2] at h
  cases h

theorem context_of_known (h : KnownTask task) :
    rt.context task = .ok (rt.slotOf task).context := by
  unfold context
  rw [slot_of_known h]
  rfl

theorem slotOf_mapSlot (h : KnownTask task) (f : TaskSlot → TaskSlot) :
    (mapSlot task f rt).slotOf task = f (rt.slotOf task) := by
  rcases h with rfl | rfl <;> rfl

theorem run_modifySlot (h : KnownTask task) (f : TaskSlot → TaskSlot) :
    (modifySlot task f).run rt = (.ok (), mapSlot task f rt) := by
  unfold modifySlot
  rw [if_pos (show task = senderTaskId ∨ task = receiverTaskId from h)]
  rfl

theorem run_setState (h : KnownTask task) (state : TaskState) :
    (setState task state).run rt = (.ok (), mapSlot task (TaskSlot.withState state) rt) :=
  run_modifySlot h _

theorem run_setResult (h : KnownTask task) (status : TrapStatus) (value : UInt64) :
    (setResult task status value).run rt =
      (.ok (), mapSlot task (TaskSlot.answered status value) rt) :=
  run_modifySlot h _

theorem run_onTable {α ε : Type} (h : KnownTask task) (err : ε → RuntimeError)
    (m : Method CapabilityTable ε α) :
    (onTable task err m).run rt = match m.run (rt.slotOf task).capabilities with
      | (.ok a, t) => (.ok a, mapSlot task (TaskSlot.withTable t) rt)
      | (.error e, t) => (.error (err e), mapSlot task (TaskSlot.withTable t) rt) := by
  rcases h with rfl | rfl
  · unfold onTable
    rw [if_pos rfl, run_onPart, slotOf_sender]
    rcases m.run rt.task0.capabilities with ⟨e | a, t⟩ <;> rfl
  · unfold onTable
    rw [if_neg (by decide), if_pos rfl, run_onPart, slotOf_receiver]
    rcases m.run rt.task1.capabilities with ⟨e | a, t⟩ <;> rfl

theorem run_onTable_ok {α ε : Type} (h : KnownTask task) {err : ε → RuntimeError}
    {m : Method CapabilityTable ε α} {a : α} {t : CapabilityTable}
    (hm : m.run (rt.slotOf task).capabilities = (.ok a, t)) :
    (onTable task err m).run rt = (.ok a, mapSlot task (TaskSlot.withTable t) rt) := by
  rw [run_onTable h, hm]

theorem run_onQueue_ok {α : Type} {m : Method RunQueue RuntimeError α} {a : α} {q : RunQueue}
    (hm : m.run rt.queue = (.ok a, q)) : (onQueue m).run rt = (.ok a, { rt with queue := q }) := by
  unfold onQueue
  rw [run_onPart, hm]

/-- A push on the empty queue. -/
theorem run_onQueue_push (hq : rt.queue = RunQueue.ofList []) (t : UInt64) :
    (onQueue (RunQueue.push t)).run rt = (.ok (), { rt with queue := RunQueue.ofList [t] }) := by
  apply run_onQueue_ok
  rw [hq, RunQueue.run_push_nil]

theorem run_answer (h : KnownTask task) (status : TrapStatus) (value : UInt64) :
    (answer task status value).run rt =
      (.ok (.resume task), mapSlot task (TaskSlot.answered status value) rt) := by
  unfold answer
  rw [run_bind_ok (run_setResult h status value), run_pure]

theorem run_answerChecked (h : KnownTask task) {status : TrapStatus} {value : UInt64}
    (hv : (mapSlot task (TaskSlot.answered status value) rt).validate = .ok ()) :
    (answerChecked task status value).run rt =
      (.ok (.resume task), mapSlot task (TaskSlot.answered status value) rt) := by
  unfold answerChecked
  rw [run_bind_ok (run_setResult h status value), run_bind, run_query, hv]
  rfl

/-! ## The running task -/

theorem Running.known (h : Running rt task) : KnownTask task := by
  rcases h with ⟨h, -⟩ | ⟨h, -⟩
  · exact .inl h
  · exact .inr h

theorem Running.state (h : Running rt task) : (rt.slotOf task).state = .running := by
  rcases h with ⟨rfl, h⟩ | ⟨rfl, h⟩ <;> exact h

theorem runningTask_eq_ok (h0 : rt.task0.id = senderTaskId) (h1 : rt.task1.id = receiverTaskId)
    (hone : ¬ (rt.task0.state = .running ∧ rt.task1.state = .running)) :
    rt.runningTask = .ok task ↔ Running rt task := by
  unfold runningTask tasks Running
  simp only [runningTaskFrom, h0, h1]
  by_cases hs0 : rt.task0.state = .running
  · have hs1 : rt.task1.state ≠ .running := fun hs1 => hone ⟨hs0, hs1⟩
    have hne : ¬ senderTaskId = 0 := by decide
    simp only [hs0, hs1, hne, if_true, if_false, ne_eq, not_true_eq_false, Except.ok.injEq,
      and_true, and_false, or_false]
    exact eq_comm
  · have hne : ¬ receiverTaskId = 0 := by decide
    by_cases hs1 : rt.task1.state = .running
    · simp only [hs0, hs1, hne, if_true, if_false, ne_eq, not_true_eq_false, Except.ok.injEq,
        and_true, and_false, false_or]
      exact eq_comm
    · simp [hs0, hs1]

/-! ## Dispatch -/

/-- With nobody running, the head of the queue is dispatched. -/
theorem run_dispatchNext {head : UInt64} {q : RunQueue} (h0 : rt.task0.state ≠ .running)
    (h1 : rt.task1.state ≠ .running) (hpop : rt.queue.pop = (some head, q))
    (hknown : KnownTask head) (hready : (rt.slotOf head).state = .ready)
    (hv : (mapSlot head (TaskSlot.withState .running) { rt with queue := q }).validate = .ok ()) :
    dispatchNext.run rt =
      (.ok (some head), mapSlot head (TaskSlot.withState .running) { rt with queue := q }) := by
  have hidle : (rt.tasks.any fun s => s.state = .running) = false := by
    simp [tasks, h0, h1]
  have hslot : ({ rt with queue := q } : Runtime).slot head = .ok (rt.slotOf head) :=
    slot_of_known hknown
  unfold dispatchNext
  simp only [run_self_bind, hidle, Bool.false_eq_true, if_false, hpop]
  rw [run_update_bind]
  rw [run_bind, run_query, hslot]
  simp only [hready, ne_eq, not_true_eq_false, if_false]
  rw [run_bind_ok (run_setState hknown .running), run_bind, run_query, hv]
  rfl

theorem run_dispatchSome {head : UInt64} {rt' : Runtime}
    (h : dispatchNext.run rt = (.ok (some head), rt')) : dispatchSome.run rt = (.ok head, rt') := by
  unfold dispatchSome
  rw [run_bind_ok h]
  rfl

/-- With nobody queued, the dispatch is over exactly when both tasks are dead. -/
theorem run_dispatchNext_nil (h0 : rt.task0.state ≠ .running) (h1 : rt.task1.state ≠ .running)
    (hq : rt.queue = RunQueue.ofList []) :
    dispatchNext.run rt =
      (if rt.task0.state = .dead ∧ rt.task1.state = .dead then .ok none
        else .error .noRunnableTask, rt) := by
  have hidle : (rt.tasks.any fun s => s.state = .running) = false := by simp [tasks, h0, h1]
  have hself : { rt with queue := RunQueue.ofList [] } = rt := by rw [← hq]
  unfold dispatchNext
  simp only [run_self_bind, hidle, Bool.false_eq_true, if_false, hq, RunQueue.pop_nil]
  simp only [run_update_bind, hself]
  by_cases hd : rt.task0.state = .dead ∧ rt.task1.state = .dead
  · have hdead : (rt.tasks.all fun s => s.state = .dead) = true := by simp [tasks, hd.1, hd.2]
    simp only [hdead, hd, and_self, if_true, run_pure]
  · have hdead : (rt.tasks.all fun s => s.state = .dead) = false := by
      simpa [tasks, not_and] using hd
    simp only [hdead, hd, Bool.false_eq_true, if_false, run_fail]

/-! ## Capture -/

theorem run_captureTrap {frame : TrapFrame} {root : UInt64} (h : Running rt task) :
    (captureTrap task frame root (rt.slotOf task).generation).run rt =
      (.ok (), mapSlot task
        (TaskSlot.captured task root (rt.slotOf task).generation frame) rt) := by
  unfold captureTrap
  rw [run_bind, run_query, slot_of_known h.known]
  simp only [h.state, ne_eq, not_true_eq_false, or_self, if_false]
  exact run_modifySlot h.known _

end Runtime

end MakopaVerified.TaskRuntime
