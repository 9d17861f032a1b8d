import MakopaVerified.TaskRuntime.Proofs.SlotProofs

/-!
# The operations that both profiles share

Yield, exit, duplicate and close: each has one of its effects, provided the state it ends in passes
`validate`. That proviso is discharged by the invariant of the profile, which every effect keeps.
-/

namespace MakopaVerified.TaskRuntime

open Foundation Method CapabilityTable

/-- The method has one of the effects of a trap of `task`, unless the final check fails. -/
def Answers (rt : Runtime) (task : UInt64) (m : Method Runtime RuntimeError TrapOutcome) : Prop :=
  ∃ outcome rt', TrapEffect rt task outcome rt' ∧
    (rt'.validate = .ok () → m.run rt = (.ok outcome, rt'))

/-- A runtime whose task `task` runs. -/
structure InService (rt : Runtime) (task : UInt64) : Prop where
  id0 : rt.task0.id = senderTaskId
  id1 : rt.task1.id = receiverTaskId
  slots : SlotsOk rt
  phase : Phase rt.task0.state rt.task1.state
  running : rt.Running task

namespace InService

variable {rt : Runtime} {task : UInt64}

/-- While `task` runs, the queue is empty or holds its peer, which is then ready. -/
theorem queue_cases (h : InService rt task) :
    rt.queue = RunQueue.ofList [] ∨
      rt.queue = RunQueue.ofList [peerOf task] ∧ (rt.slotOf (peerOf task)).state = .ready := by
  rcases h.running with ⟨rfl, hr⟩ | ⟨rfl, hr⟩
  · rcases h.slots.queue_of_running0 h.id0 hr with hq | hq
    · exact .inl hq
    · exact .inr ⟨hq, h.slots.ready1 h.id1 hq⟩
  · rcases h.slots.queue_of_running1 h.id1 hr with hq | hq
    · exact .inl hq
    · exact .inr ⟨hq, h.slots.ready0 h.id0 hq⟩

/-- The peer of the running task does not run. -/
theorem peer_idle (h : InService rt task) :
    (rt.slotOf (peerOf task)).state ≠ .running := by
  intro hp
  rcases h.running with ⟨rfl, hr⟩ | ⟨rfl, hr⟩
  · exact h.slots.one_running ⟨hr, hp⟩
  · exact h.slots.one_running ⟨hp, hr⟩

end InService

namespace Runtime

variable {rt : Runtime} {task : UInt64} {status : TrapStatus}

/-! ## Rejections -/

/-- A status that only a rejected operation answers. -/
def Refusal (status : TrapStatus) : Prop := status ≠ .ok ∧ status ≠ .approvalExpired

instance : Decidable (Refusal status) := inferInstanceAs (Decidable (_ ∧ _))

theorem refusal_of_handle : status ∈ CapabilityTable.handleStatuses → Refusal status := by
  cases status <;> decide

section Refusal

variable {m : Method Runtime RuntimeError TrapOutcome} (status : TrapStatus)

/-- An operation other than `receive` that stops with an unchecked answer. -/
theorem answers_of_answer (hk : KnownTask task) (hs : Refusal status)
    (hop : rt.operation task ≠ some .receive)
    (hm : m.run rt = (answer task status 0).run rt) : Answers rt task m :=
  ⟨_, _, .refused hs.1 hs.2 fun h => absurd h hop, fun _ => hm.trans (run_answer hk status 0)⟩

/-- An operation other than `receive` that stops with a checked answer. -/
theorem answers_of_answerChecked (hk : KnownTask task) (hs : Refusal status)
    (hop : rt.operation task ≠ some .receive)
    (hm : m.run rt = (answerChecked task status 0).run rt) : Answers rt task m :=
  ⟨_, _, .refused hs.1 hs.2 fun h => absurd h hop, fun hv => hm.trans (run_answerChecked hk hv)⟩

end Refusal

/-! ## Rejected messages -/

theorem resolveEndpoint_error {handle right : UInt64} (hk : KnownTask task)
    (h : rt.resolveEndpoint task handle right = .error status) :
    status ∈ CapabilityTable.handleStatuses := by
  unfold resolveEndpoint at h
  rw [slot_of_known hk] at h
  dsimp only at h
  split at h
  · rename_i status' hres
    obtain rfl : status' = status := by simpa using h
    exact resolveTyped_error hres
  · split at h
    · obtain rfl : TrapStatus.invalidHandle = status := by simpa using h
      decide
    · cases h

theorem sendStatus_some {handle reserved : UInt64} (hk : KnownTask task) :
    ∀ status ∈ rt.sendStatus task handle reserved, Refusal status := by
  refine forall_mem_guard (by decide) ?_
  split
  · rename_i hres
    rintro _ ⟨⟩
    exact refusal_of_handle (resolveEndpoint_error hk hres)
  · exact forall_mem_guard (by decide) (forall_mem_guard (by decide) nofun)

theorem receiveStatus_some {handle a b : UInt64} (hk : KnownTask task) :
    ∀ status ∈ rt.receiveStatus task handle a b, Refusal status ∧ status ≠ .peerExited := by
  refine forall_mem_guard (by decide) ?_
  split
  · rename_i hres
    rintro _ ⟨⟩
    have hmem := resolveEndpoint_error hk hres
    refine ⟨refusal_of_handle hmem, ?_⟩
    rintro rfl
    exact absurd hmem (by decide)
  · nofun

/-! ## Yield and exit -/

/-- The runtime of a yield before its dispatch: the caller is answered, ready and queued. -/
def queuedCaller (rt : Runtime) (task : UInt64) (q : RunQueue) : Runtime :=
  mapSlot task (TaskSlot.woken .ok 0) { rt with queue := q }

theorem queuedCaller_idle (h : InService rt task) (q : RunQueue) :
    (queuedCaller rt task q).task0.state ≠ .running ∧
      (queuedCaller rt task q).task1.state ≠ .running := by
  have hp := h.peer_idle
  have hne : TaskState.ready ≠ .running := by decide
  rcases h.running.known with rfl | rfl
  · exact ⟨hne, hp⟩
  · exact ⟨hp, hne⟩

theorem run_yieldTask (h : InService rt task) {a b c : UInt64}
    (hzero : ¬ (a ≠ 0 ∨ b ≠ 0 ∨ c ≠ 0)) {q : RunQueue}
    (hq : (RunQueue.push task).run rt.queue = (.ok (), q)) {head : UInt64} {q' : RunQueue}
    (hpop : q.pop = (some head, q')) (hk : KnownTask head)
    (hready : ((queuedCaller rt task q).slotOf head).state = .ready)
    (hv : (mapSlot head (TaskSlot.withState .running) (queuedCaller rt task q')).validate
      = .ok ()) :
    (yieldTask task a b c).run rt =
      (.ok (.switch head),
        mapSlot head (TaskSlot.withState .running) (queuedCaller rt task q')) := by
  have hqueue : (mapSlot task (TaskSlot.withState .ready)
      (mapSlot task (TaskSlot.answered .ok 0) rt)).queue = rt.queue := by
    simp
  have hidle := queuedCaller_idle h q
  have hsame : ∀ q₁ q₂ : RunQueue,
      ({ queuedCaller rt task q₁ with queue := q₂ } : Runtime) = queuedCaller rt task q₂ := by
    intro q₁ q₂
    rcases h.running.known with rfl | rfl <;> rfl
  have hstart : ({ mapSlot task (TaskSlot.withState .ready)
      (mapSlot task (TaskSlot.answered .ok 0) rt) with queue := q } : Runtime)
      = queuedCaller rt task q := by
    rcases h.running.known with rfl | rfl <;> rfl
  have hpop' : (queuedCaller rt task q).queue.pop = (some head, q') := by
    simpa [queuedCaller] using hpop
  unfold yieldTask
  rw [if_neg hzero, run_bind_ok (run_setResult h.running.known .ok 0),
    run_bind_ok (run_setState h.running.known .ready),
    run_bind_ok (run_onQueue_ok (hqueue ▸ hq)), hstart]
  rw [← hsame q q'] at hv ⊢
  rw [run_bind_ok (run_dispatchSome (run_dispatchNext hidle.1 hidle.2 hpop' hk hready hv))]
  rfl

theorem yieldTask_answers (h : InService rt task) (op : rt.operation task = some .yield)
    (a b c : UInt64) : Answers rt task (yieldTask task a b c) := by
  have hop : rt.operation task ≠ some .receive := by rw [op]; decide
  by_cases hzero : a ≠ 0 ∨ b ≠ 0 ∨ c ≠ 0
  · apply answers_of_answer .invalidOperation h.running.known (by decide) hop
    unfold yieldTask
    rw [if_pos hzero]
  · rcases h.queue_cases with hq | ⟨hq, hready⟩
    · -- nobody else is ready: the caller itself is the head of the queue
      have hback : mapSlot task (TaskSlot.withState .running)
          (queuedCaller rt task (RunQueue.ofList [])) = mapSlot task (TaskSlot.answered .ok 0) rt := by
        have hr := h.running.state
        rcases h.running.known with rfl | rfl
        · simp only [queuedCaller, mapSlot_sender, ← hq, TaskSlot.woken, TaskSlot.withState, ← hr]
          rfl
        · simp only [queuedCaller, mapSlot_receiver, ← hq, TaskSlot.woken, TaskSlot.withState, ← hr]
          rfl
      refine ⟨_, _, .kept op hq, fun hv => ?_⟩
      rw [← hback] at hv ⊢
      refine run_yieldTask h hzero (by rw [hq]; rfl) (RunQueue.pop_singleton task) h.running.known
        ?_ hv
      rcases h.running.known with rfl | rfl <;> rfl
    · have hne : peerOf task ≠ task := by
        rcases h.running.known with rfl | rfl <;> decide
      have hk : KnownTask (peerOf task) := by
        rcases h.running.known with rfl | rfl
        · exact .inr rfl
        · exact .inl rfl
      refine ⟨_, _, .yielded op hne hk hq, fun hv => ?_⟩
      refine run_yieldTask h hzero (by rw [hq]; exact RunQueue.run_push_singleton hne.symm)
        (RunQueue.pop_pair _ _) hk ?_ hv
      rcases h.running.known with rfl | rfl <;> exact hready

theorem exit_answers (h : InService rt task) (op : rt.operation task = some .exit)
    (a b c : UInt64) : Answers rt task (exit task a b c) := by
  by_cases hzero : a ≠ 0 ∨ b ≠ 0 ∨ c ≠ 0
  · apply answers_of_answer .invalidOperation h.running.known (by decide)
      (by rw [op]; decide)
    unfold exit
    rw [if_pos hzero]
  · refine ⟨_, _, .exited op, fun hv => ?_⟩
    unfold exit
    rw [if_neg hzero, run_bind_ok (run_setState h.running.known .exited), run_bind,
      run_query, hv]
    rfl

/-! ## Handle operations -/

theorem run_callTable {α : Type} (rt : Runtime) (hk : KnownTask task)
    (m : UInt64 → Method CapabilityTable TrapStatus α) :
    (callTable task m).run rt =
      (.ok ((m (rt.slotOf task).generation).run (rt.slotOf task).capabilities).1,
        mapSlot task (TaskSlot.withTable
          ((m (rt.slotOf task).generation).run (rt.slotOf task).capabilities).2) rt) := by
  unfold callTable
  rw [run_bind, run_query, slot_of_known hk]
  exact run_onTable_ok hk (run_attempt _ _)

theorem mapSlot_withTable_self (hk : KnownTask task) :
    mapSlot task (TaskSlot.withTable (rt.slotOf task).capabilities) rt = rt := by
  rcases hk with rfl | rfl <;> rfl

theorem duplicate_answers (h : InService rt task) (op : rt.operation task = some .duplicate)
    (reserved : UInt64) :
    Answers rt task (duplicate task (rt.input task).rdi (rt.input task).rsi reserved) := by
  have hop : rt.operation task ≠ some .receive := by rw [op]; decide
  by_cases hzero : reserved ≠ 0
  · apply answers_of_answer .invalidOperation h.running.known (by decide) hop
    unfold duplicate
    rw [if_pos hzero]
  · have hcall := run_callTable rt h.running.known fun gen =>
      CapabilityTable.duplicate task gen (rt.input task).rdi (rt.input task).rsi
    rcases run_duplicate task (rt.slotOf task).generation (rt.input task).rdi
      (rt.input task).rsi (rt.slotOf task).capabilities
      with ⟨status, hmem, hrun⟩ | ⟨handle, table, hdup, hrun⟩
    · rw [hrun, mapSlot_withTable_self h.running.known] at hcall
      apply answers_of_answerChecked status h.running.known (refusal_of_handle hmem) hop
      unfold duplicate
      rw [if_neg hzero, run_bind_ok hcall]
    · rw [hrun] at hcall
      refine ⟨_, _, @TrapEffect.duplicated rt task handle table op hdup, fun hv => ?_⟩
      unfold duplicate
      rw [if_neg hzero, run_bind_ok hcall]
      show (answerChecked task .ok handle).run _ = _
      rw [← mapSlot_mapSlot task (TaskSlot.answered .ok handle) (TaskSlot.withTable table)] at hv ⊢
      exact run_answerChecked h.running.known hv

theorem close_answers (h : InService rt task) (op : rt.operation task = some .close)
    (handle a b : UInt64) : Answers rt task (close task handle a b) := by
  have hop : rt.operation task ≠ some .receive := by rw [op]; decide
  by_cases hzero : a ≠ 0 ∨ b ≠ 0
  · apply answers_of_answer .invalidOperation h.running.known (by decide) hop
    unfold close
    rw [if_pos hzero]
  · have hcall := run_callTable rt h.running.known fun gen =>
      CapabilityTable.close task gen handle
    rcases run_close task (rt.slotOf task).generation handle
      (rt.slotOf task).capabilities with hrun | ⟨table, hclosed, hrun⟩
    · rw [hrun, mapSlot_withTable_self h.running.known] at hcall
      apply answers_of_answerChecked .invalidHandle h.running.known (by decide) hop
      unfold close
      rw [if_neg hzero, run_bind_ok hcall]
    · rw [hrun] at hcall
      refine ⟨_, _, .closed op hclosed, fun hv => ?_⟩
      unfold close
      rw [if_neg hzero, run_bind_ok hcall]
      show (answerChecked task .ok 0).run _ = _
      rw [← mapSlot_mapSlot task (TaskSlot.answered .ok 0) (TaskSlot.withTable table)] at hv ⊢
      exact run_answerChecked h.running.known hv

/-! ## The whole trap -/

/-- The operation in the registers of the running task is performed. -/
theorem run_handleTrapInner (h : InService rt task) :
    (handleTrapInner task).run rt = (match rt.operation task with
      | none => answer task .invalidOperation 0
      | some operation => perform task (rt.input task) operation).run rt := by
  have hrunning : rt.runningTask = .ok task :=
    (runningTask_eq_ok h.id0 h.id1 h.slots.one_running).mpr h.running
  unfold handleTrapInner
  rw [run_bind, run_query, hrunning]
  simp only [ne_eq, not_true_eq_false, if_false]
  rw [run_bind, run_query, context_of_known h.running.known]
  rfl

/-- `handle_trap` has the effects of the operation that the registers ask for. -/
theorem handleTrap_answers (h : InService rt task)
    (hperform : ∀ o, rt.operation task = some o → Answers rt task (perform task (rt.input task) o)) :
    Answers rt task (handleTrap task) := by
  have hinner := run_handleTrapInner h
  obtain ⟨outcome, rt', heffect, hrun⟩ : Answers rt task (handleTrapInner task) := by
    cases hop : rt.operation task with
    | none =>
      rw [hop] at hinner
      exact answers_of_answer .invalidOperation h.running.known (by decide)
        (by rw [hop]; decide) hinner
    | some o =>
      rw [hop] at hinner
      obtain ⟨outcome, rt', heffect, hrun⟩ := hperform o hop
      exact ⟨outcome, rt', heffect, fun hv => hinner.trans (hrun hv)⟩
  exact ⟨outcome, rt', heffect, fun hv => run_restoring_ok.mpr (hrun hv)⟩

end Runtime

end MakopaVerified.TaskRuntime
