import MakopaVerified.TaskRuntime.Proofs.CommonTrapProofs

/-!
# Traps of the cooperative profile

`CoopInv` is the invariant of the cooperative profile: `validate`, one task that holds the
processor, and tables in which the sender cannot receive and the receiver cannot send. Under it
every trap has one of the effects of `TrapEffect`.
-/

namespace MakopaVerified.TaskRuntime

open Foundation Method

/-- No entry of the table carries the right. -/
def CapabilityTable.Lacks (right : UInt64) (t : CapabilityTable) : Prop :=
  t.Entries fun entry => entry.rights &&& right = 0

/-- The invariant of the cooperative profile. -/
structure CoopInv (rt : Runtime) : Prop where
  profile : rt.profile = .cooperative
  id0 : rt.task0.id = senderTaskId
  id1 : rt.task1.id = receiverTaskId
  valid : Valid rt
  phase : Phase rt.task0.state rt.task1.state
  sender_awake : rt.task0.state ≠ .blockedReceive
  sender_rights : rt.task0.capabilities.Lacks capabilityRightReceive
  receiver_rights : rt.task1.capabilities.Lacks capabilityRightSend

namespace CoopInv

variable {rt : Runtime} {task : UInt64}

theorem coop (h : CoopInv rt) : CoopOk rt := h.valid.cooperative h.profile

theorem inService (h : CoopInv rt) (hr : rt.Running task) : InService rt task where
  id0 := h.id0
  id1 := h.id1
  slots := h.valid.toSlotsOk
  phase := h.phase
  running := hr

end CoopInv

namespace Runtime

variable {rt : Runtime} {task : UInt64}

/-! ## Resolving the endpoint -/

/-- A resolved endpoint handle names a table entry that carries the right. -/
theorem resolveEndpoint_ok {handle right : UInt64} (hk : KnownTask task)
    (h : rt.resolveEndpoint task handle right = .ok ()) :
    ¬ (rt.slotOf task).capabilities.Lacks right ∧
      rt.endpoint.objectGeneration = endpointGeneration := by
  unfold resolveEndpoint at h
  rw [slot_of_known hk] at h
  dsimp only at h
  split at h
  · cases h
  · rename_i entry hres
    split at h
    · cases h
    · rename_i hobj
      simp only [not_or, not_not, ne_eq] at hobj
      obtain ⟨-, -, -, i, -, -, he, -, -, -, hright⟩ := CapabilityTable.resolveTyped_eq_ok.mp hres
      exact ⟨fun hlacks => hright (hlacks.get he), hobj.2.2⟩

/-! ## Send -/

theorem sendStatus_none {handle reserved : UInt64}
    (h : rt.sendStatus task handle reserved = none) :
    rt.resolveEndpoint task handle capabilityRightSend = .ok () ∧
      rt.endpoint.receiverGeneration ≠ 0 ∧ rt.endpoint.occupied = false := by
  unfold sendStatus at h
  split at h
  · cases h
  · split at h
    · cases h
    · rename_i hres
      split at h
      · cases h
      · rename_i hgen
        split at h
        · cases h
        · rename_i hocc
          exact ⟨hres, hgen, by simpa using hocc⟩

theorem send_answers (h : CoopInv rt) (hr : rt.Running task)
    (op : rt.operation task = some .send) (handle reserved : UInt64) :
    Answers rt task (send task handle (rt.input task).rsi reserved) := by
  have hk := hr.known
  cases hstatus : rt.sendStatus task handle reserved with
  | some status =>
    apply answers_of_answerChecked status hk (sendStatus_some hk _ hstatus) (by rw [op]; decide)
    unfold send
    simp only [run_self_bind, hstatus]
  | none =>
    obtain ⟨hres, hgen, hvacant⟩ := sendStatus_none hstatus
    -- only the sender holds a handle with the right to send
    obtain rfl : task = senderTaskId := by
      rcases hk with hs | rfl
      · exact hs
      · exact absurd h.receiver_rights (resolveEndpoint_ok (.inr rfl) hres).1
    have hr0 : rt.task0.state = .running := hr.state
    by_cases hb : rt.task1.state = .blockedReceive
    · have hq : rt.queue = RunQueue.ofList [] := by
        rcases h.valid.queue_of_running0 h.id0 hr0 with hq | hq
        · exact hq
        · have := h.valid.slot1.ready_iff.mpr (by rw [h.id1, hq]; rfl)
          rw [hb] at this
          cases this
      refine ⟨_, _, .delivered op rfl hvacant hb, fun hv => ?_⟩
      unfold send
      simp only [run_self_bind, hstatus]
      rw [run_update_bind]
      rw [run_bind, run_query, slot_of_known (.inr rfl)]
      simp only [slotOf_receiver, hb, if_true]
      rw [run_self_bind]
      rw [run_update_bind]
      rw [run_bind_ok (run_setResult (.inr rfl) _ _),
        run_bind_ok (run_setState (.inr rfl) _),
        run_bind_ok (run_onQueue_push (by simpa using hq) _)]
      exact run_answerChecked (.inl rfl) hv
    · refine ⟨_, _, .stored op rfl hgen hvacant hb, fun hv => ?_⟩
      unfold send
      simp only [run_self_bind, hstatus]
      rw [run_update_bind]
      rw [run_bind, run_query, slot_of_known (.inr rfl)]
      simp only [slotOf_receiver, hb, if_false]
      exact run_answerChecked (.inl rfl) hv

/-! ## Receive -/

theorem receiveStatus_none {handle a b : UInt64} (h : rt.receiveStatus task handle a b = none) :
    rt.resolveEndpoint task handle capabilityRightReceive = .ok () := by
  unfold receiveStatus at h
  split at h
  · cases h
  · split at h
    · cases h
    · rename_i hres
      exact hres

/-- While the receiver runs, a sender that is still bound to the endpoint is ready. -/
theorem sender_ready (h : CoopInv rt) (hr : rt.task1.state = .running)
    (hgen : rt.endpoint.senderGeneration ≠ 0) : rt.task0.state = .ready := by
  have hpassive := h.phase.first_passive (by rw [hr]; rfl)
  have hstate := h.coop.sender_state
  have hawake := h.sender_awake
  have hdead : rt.task0.state ≠ .dead := by
    intro hd
    have htable : rt.task0.capabilities.state = .dead := by
      have := h.valid.slot0.table_state
      rw [hd] at this
      exact this
    exact hgen (h.coop.sender_gone (.inr htable)).2
  cases hs : rt.task0.state with
  | ready => rfl
  | staged => exact absurd hs hstate.1
  | blockedApproval => exact absurd hs hstate.2
  | blockedReceive => exact absurd hs hawake
  | dead => exact absurd hs hdead
  | running | exited =>
    rw [hs] at hpassive
    cases hpassive

theorem receive_answers (h : CoopInv rt) (hr : rt.Running task)
    (op : rt.operation task = some .receive) :
    Answers rt task (receive task (rt.input task).rdi (rt.input task).rsi (rt.input task).rdx) := by
  have hk := hr.known
  cases hstatus : rt.receiveStatus task (rt.input task).rdi (rt.input task).rsi
    (rt.input task).rdx with
  | some status =>
    obtain ⟨⟨hne, hexp⟩, -⟩ := receiveStatus_some hk _ hstatus
    refine ⟨_, _, .refused hne hexp fun _ => .inl hstatus, fun _ => ?_⟩
    unfold receive
    simp only [run_self_bind, hstatus]
    exact run_answer hk status 0
  | none =>
    -- only the receiver holds a handle with the right to receive
    obtain rfl : task = receiverTaskId := by
      rcases hk with rfl | hs
      · exact absurd h.sender_rights (resolveEndpoint_ok (.inl rfl) (receiveStatus_none hstatus)).1
      · exact hs
    have hr1 : rt.task1.state = .running := hr.state
    cases hocc : rt.endpoint.occupied with
    | true =>
      refine ⟨_, _, .took op rfl hocc, fun hv => ?_⟩
      unfold receive
      simp only [run_self_bind, hstatus, hocc, if_true]
      rw [run_update_bind]
      exact run_answerChecked (.inr rfl) hv
    | false =>
      by_cases hgen : rt.endpoint.senderGeneration = 0
      · refine ⟨_, _, .refused (by decide) (by decide) fun _ => .inr ⟨rfl, hocc, hgen⟩,
          fun _ => ?_⟩
        unfold receive
        simp only [run_self_bind, hstatus, hocc, Bool.false_eq_true, if_false, hgen, if_true]
        exact run_answer hk .peerExited 0
      · have hready := sender_ready h hr1 hgen
        have hq : rt.queue = RunQueue.ofList [senderTaskId] := by
          rcases h.valid.queue_of_running1 h.id1 hr1 with hq | hq
          · have := h.valid.slot0.ready_iff.mp hready
            rw [hq] at this
            cases this
          · exact hq
        refine ⟨_, _, .blocked op rfl hocc hgen hq, fun hv => ?_⟩
        have hdispatch : dispatchNext.run
            (mapSlot receiverTaskId (TaskSlot.withState .blockedReceive) rt) = (.ok (some senderTaskId), _) :=
          run_dispatchNext (by rw [mapSlot_receiver]; simp [hready])
            (show TaskState.blockedReceive ≠ .running by decide)
            (by rw [mapSlot_queue, hq]; rfl) (.inl rfl) hready hv
        unfold receive
        simp only [run_self_bind, hstatus, hocc, Bool.false_eq_true, if_false, hgen]
        rw [run_bind_ok (run_setState (.inr rfl) _),
          run_bind_ok (run_dispatchSome hdispatch), run_bind, run_query]
        simp only [mapSlot_receiver, mapSlot_sender] at hv ⊢
        erw [hv]
        rfl

/-! ## All operations -/

/-- The operations of the supervised profile are not available here. -/
theorem supervised_operation_answers (hp : rt.profile = .cooperative) (hk : KnownTask task)
    {o : TrapOperation} (op : rt.operation task = some o)
    (ho : o ∈ [.startWorkload, .submitApproval, .inspectApproval, .decideApproval, .commitEffect,
      .inspectEffectJournal, .readEffectRecord]) :
    Answers rt task (perform task (rt.input task) o) := by
  have hne : rt.profile ≠ .supervised := by rw [hp]; decide
  have hop : rt.operation task ≠ some .receive := by
    rw [op]
    rintro h
    obtain rfl := Option.some.inj h
    simp at ho
  fin_cases ho
  · by_cases hzero : (rt.input task).rdx ≠ 0
    · apply answers_of_answer .invalidOperation hk (by decide) hop
      simp [perform, startWorkload, startWorkloadWithFailure, startStatus, run_bind, hzero]
    · apply answers_of_answer .wrongObject hk (by decide) hop
      simp [perform, startWorkload, startWorkloadWithFailure, startStatus, run_bind, hzero,
        hne]
  · apply answers_of_answerChecked .wrongObject hk (by decide) hop
    simp [perform, submitApproval, submitStatus, run_bind, hne]
  · by_cases hzero : (rt.input task).rsi ≠ 0 ∨ (rt.input task).rdx ≠ 0
    · apply answers_of_answerChecked .invalidOperation hk (by decide) hop
      simp only [perform, inspectApproval, run_bind, run_self, inspectStatus]
      rw [if_pos hzero]
    · apply answers_of_answerChecked .wrongObject hk (by decide) hop
      simp only [perform, inspectApproval, run_bind, run_self, inspectStatus]
      rw [if_neg hzero, if_pos hne]
  · apply answers_of_answerChecked .wrongObject hk (by decide) hop
    simp [perform, decideApproval, decideStatus, run_bind, hne]
  · apply answers_of_answerChecked .wrongObject hk (by decide) hop
    simp [perform, commitEffect, commitStatus, run_bind, hne]
  · exact answers_of_answerChecked .invalidOperation hk (by decide) hop rfl
  · exact answers_of_answerChecked .invalidOperation hk (by decide) hop rfl

theorem cooperative_answers (h : CoopInv rt) (hr : rt.Running task) :
    Answers rt task (handleTrap task) := by
  have hs := h.inService hr
  apply handleTrap_answers hs
  intro o op
  cases o with
  | yield => exact yieldTask_answers hs op _ _ _
  | send => exact send_answers h hr op _ _
  | receive => exact receive_answers h hr op
  | exit => exact exit_answers hs op _ _ _
  | duplicate => exact duplicate_answers hs op _
  | close => exact close_answers hs op _ _ _
  | startWorkload | submitApproval | inspectApproval | decideApproval | commitEffect
  | inspectEffectJournal | readEffectRecord =>
    exact supervised_operation_answers h.profile hr.known op (by decide)

end Runtime

end MakopaVerified.TaskRuntime
