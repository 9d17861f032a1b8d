import MakopaVerified.TaskRuntime.Proofs.TeardownProofs

/-!
# Traps of the supervised profile

`SupInv` is the invariant of the supervised profile: `validate`, one task that holds the processor,
a workload that waits exactly while the broker holds its request, and an approval whose epoch is
the current one. Under it every trap has one of the effects of `TrapEffect`.
-/

namespace MakopaVerified.TaskRuntime

open Foundation Method CapabilityTable

/-- The invariant of the supervised profile, but for the epochs. -/
structure SupCore (rt : Runtime) : Prop where
  profile : rt.profile = .supervised
  id0 : rt.task0.id = senderTaskId
  id1 : rt.task1.id = receiverTaskId
  valid : Valid rt
  phase : Phase rt.task0.state rt.task1.state
  supervisor_state : rt.task0.state ≠ .staged ∧ rt.task0.state ≠ .blockedApproval
  waiting : rt.task1.state = .blockedApproval →
    rt.broker.state = .pending ∨ rt.broker.state = .approved
  broker_open : rt.broker.state ≠ .closing → rt.broker.state ≠ .dead →
    rt.task0.state ≠ .dead ∧ rt.task0.capabilities.state ≠ .closing
  broker_alive : rt.task0.state ≠ .dead → rt.broker.state ≠ .dead
  released : rt.task1.capabilities.state = .closing → rt.manifest = ManifestPublication.empty

/-- The invariant of the supervised profile. -/
structure SupInv (rt : Runtime) : Prop extends SupCore rt where
  approved_epoch : rt.broker.state = .approved →
    rt.broker.approvalEpoch = rt.broker.decisionEpoch ∧ rt.broker.decisionEpoch ≠ u64Max

namespace SupCore

variable {rt : Runtime} {task : UInt64}

theorem sup (h : SupCore rt) : SupOk rt := h.valid.supervised h.profile

theorem inService (h : SupCore rt) (hr : rt.Running task) : InService rt task where
  id0 := h.id0
  id1 := h.id1
  slots := h.valid.toSlotsOk
  phase := h.phase
  running := hr

/-- An open request is held, and keeps the workload waiting. -/
theorem held_of_open (h : SupCore rt)
    (ho : rt.broker.state = .pending ∨ rt.broker.state = .approved) :
    rt.broker.requestPresent = true ∧ rt.task1.state = .blockedApproval := by
  have hb := h.sup.broker_state
  unfold BrokerStateOk at hb
  rcases ho with ho | ho <;> rw [ho] at hb <;> exact ⟨hb.1, hb.2.2.2.2⟩

theorem blocked_of_open (h : SupCore rt)
    (ho : rt.broker.state = .pending ∨ rt.broker.state = .approved) :
    rt.task1.state = .blockedApproval := (h.held_of_open ho).2

theorem present_of_open (h : SupCore rt)
    (ho : rt.broker.state = .pending ∨ rt.broker.state = .approved) :
    rt.broker.requestPresent = true := (h.held_of_open ho).1

theorem open_of_present (h : SupCore rt) (hp : rt.broker.requestPresent = true) :
    rt.broker.state = .pending ∨ rt.broker.state = .approved := by
  have hb := h.sup.broker_state
  unfold BrokerStateOk at hb
  cases hs : rt.broker.state with
  | pending => exact .inl rfl
  | approved => exact .inr rfl
  | building =>
    rw [hs] at hb
    exact hb.elim
  | empty | closing | dead =>
    rw [hs] at hb
    rw [hb.1] at hp
    cases hp

/-- While a request is open, the running task is the supervisor and nobody is queued. -/
theorem supervisor_runs (h : SupCore rt) (hr : rt.Running task)
    (hb : rt.task1.state = .blockedApproval) :
    task = senderTaskId ∧ rt.task0.state = .running ∧ rt.queue = RunQueue.ofList [] := by
  rcases hr with ⟨rfl, hr⟩ | ⟨rfl, hr⟩
  · exact ⟨rfl, hr, h.valid.queue_nil h.id0 h.id1 (by rw [hr]; decide) (by rw [hb]; decide)⟩
  · rw [hb] at hr
    cases hr

/-- While the workload runs and the broker takes requests, the supervisor is ready. -/
theorem supervisor_ready (h : SupCore rt) (hr : rt.task1.state = .running)
    (hc : rt.broker.state ≠ .closing) (hd : rt.broker.state ≠ .dead) :
    rt.task0.state = .ready ∧ rt.queue = RunQueue.ofList [senderTaskId] := by
  have hpassive := h.phase.first_passive (by rw [hr]; rfl)
  have hready : rt.task0.state = .ready := by
    cases hs : rt.task0.state with
    | ready => rfl
    | staged => exact absurd hs h.supervisor_state.1
    | blockedApproval => exact absurd hs h.supervisor_state.2
    | blockedReceive => exact absurd hs h.sup.supervisor_state
    | dead => exact absurd hs (h.broker_open hc hd).1
    | running | exited =>
      rw [hs] at hpassive
      cases hpassive
  refine ⟨hready, ?_⟩
  rcases h.valid.queue_of_running1 h.id1 hr with hq | hq
  · have := h.valid.slot0.ready_iff.mp hready
    rw [hq] at this
    cases this
  · exact hq

end SupCore

namespace Runtime

variable {rt : Runtime} {task : UInt64} {handle : UInt64} {status : TrapStatus}

/-! ## Rejections -/

theorem resolveObject_error {right objectId objectGeneration : UInt64} {objectType : UInt32}
    (hk : KnownTask task)
    (h : rt.resolveObject task handle objectType right objectId objectGeneration = .error status) :
    status ∈ CapabilityTable.handleStatuses := by
  unfold resolveObject at h
  rw [slot_of_known hk] at h
  dsimp only at h
  split at h
  · rename_i status' hres
    obtain rfl : status' = status := by simpa using h
    exact resolveTyped_error hres
  · split at h
    · obtain rfl : TrapStatus.invalidHandle = status := by simpa using h
      decide
    · cases h

theorem resolveObject_generation {right objectId objectGeneration : UInt64} {objectType : UInt32}
    (hk : KnownTask task)
    (h : rt.resolveObject task handle objectType right objectId objectGeneration = .ok ()) :
    objectGeneration ≠ 0 := by
  unfold resolveObject at h
  rw [slot_of_known hk] at h
  dsimp only at h
  split at h
  · cases h
  · split at h
    · cases h
    · rename_i hobj
      simp only [not_or] at hobj
      exact hobj.2.2

/-- There is no endpoint to resolve in the supervised profile. -/
theorem resolveEndpoint_supervised (h : SupCore rt) (hk : KnownTask task) (handle right : UInt64) :
    ∃ status ∈ CapabilityTable.handleStatuses,
      rt.resolveEndpoint task handle right = .error status := by
  unfold resolveEndpoint
  rw [slot_of_known hk]
  dsimp only
  split
  · rename_i status hres
    exact ⟨status, resolveTyped_error hres, rfl⟩
  · rw [if_pos (by rw [h.sup.endpoint_empty]; exact .inr (.inr (by decide)))]
    exact ⟨.invalidHandle, by decide, rfl⟩

theorem send_answers_supervised (h : SupCore rt) (hk : KnownTask task)
    (op : rt.operation task = some .send) (handle message reserved : UInt64) :
    Answers rt task (send task handle message reserved) := by
  have hop : rt.operation task ≠ some .receive := by rw [op]; decide
  obtain ⟨status, hmem, hres⟩ := resolveEndpoint_supervised h hk handle capabilityRightSend
  by_cases hzero : reserved ≠ 0
  · apply answers_of_answerChecked .invalidOperation hk (by decide) hop
    simp [send, sendStatus, run_bind, hzero]
  · apply answers_of_answerChecked status hk (refusal_of_handle hmem) hop
    simp [send, sendStatus, run_bind, hzero, hres]

theorem receive_answers_supervised (h : SupCore rt) (hk : KnownTask task) :
    Answers rt task (receive task (rt.input task).rdi (rt.input task).rsi (rt.input task).rdx) := by
  obtain ⟨status, hstatus⟩ : ∃ status, rt.receiveStatus task (rt.input task).rdi
      (rt.input task).rsi (rt.input task).rdx = some status := by
    obtain ⟨status, -, hres⟩ :=
      resolveEndpoint_supervised h hk (rt.input task).rdi capabilityRightReceive
    unfold receiveStatus
    split
    · exact ⟨_, rfl⟩
    · rw [hres]
      exact ⟨_, rfl⟩
  obtain ⟨⟨hne, hexp⟩, -⟩ := receiveStatus_some hk _ hstatus
  refine ⟨_, _, .refused hne hexp fun _ => .inl hstatus, fun _ => ?_⟩
  unfold receive
  simp only [run_self_bind, hstatus]
  exact run_answer hk status 0

/-! ## Launch -/

theorem startStatus_some {manifest reserved : UInt64} (hk : KnownTask task) :
    ∀ status ∈ rt.startStatus task handle manifest reserved, Refusal status := by
  refine forall_mem_guard (by decide) (forall_mem_guard (by decide) ?_)
  split
  · rename_i hres
    rintro _ ⟨⟩
    exact refusal_of_handle (resolveObject_error hk hres)
  · refine forall_mem_guard (by decide) (forall_mem_guard (by decide) ?_)
    split
    · rintro _ ⟨⟩
      decide
    · nofun

theorem startStatus_none {manifest reserved : UInt64}
    (h : rt.startStatus task handle manifest reserved = none) : rt.task1.state = .staged := by
  have hbound := (guard_eq_none.mp (guard_eq_none.mp h).2).2
  split at hbound
  · cases hbound
  · exact not_not.mp (guard_eq_none.mp (guard_eq_none.mp hbound).2).1

/-- The route loop on the registered manifest installs its one route. -/
theorem run_installRoutes (t : CapabilityTable) :
    (∃ e, (installRoutes (registeredLaunchManifest.routes.toList.take
      registeredLaunchManifest.routeCount.toNat)).run t = (.error e, t)) ∨
    ∃ t', (installRoutes (registeredLaunchManifest.routes.toList.take
        registeredLaunchManifest.routeCount.toNat)).run t = (.ok (), t') ∧
      t'.state = .building ∧ CapabilityTable.Launched t { t' with state := .live } := by
  show (∃ e, (do
      let _ ← CapabilityTable.installObjectBuilding objectTypeApprovalBroker
        { id := approvalBrokerObjectId, generation := fixedObjectGeneration }
        capabilityRightSubmitApproval
      pure () : Method CapabilityTable RuntimeError Unit).run t = (.error e, t)) ∨
    ∃ t', (do
      let _ ← CapabilityTable.installObjectBuilding objectTypeApprovalBroker
        { id := approvalBrokerObjectId, generation := fixedObjectGeneration }
        capabilityRightSubmitApproval
      pure () : Method CapabilityTable RuntimeError Unit).run t = (.ok (), t') ∧ _ ∧ _
  rcases run_installObjectBuilding objectTypeApprovalBroker
    { id := approvalBrokerObjectId, generation := fixedObjectGeneration }
    capabilityRightSubmitApproval t with hrun | ⟨i, handle, hfree, -, -, -, -, hbuilding, hrun⟩
  · exact .inl ⟨_, run_bind_error hrun⟩
  · exact .inr ⟨_, run_bind_ok hrun, hbuilding, hbuilding, i, hfree, rfl⟩

theorem startWorkload_answers (h : SupCore rt) (hr : rt.Running task)
    (op : rt.operation task = some .startWorkload) (handle manifest reserved : UInt64) :
    Answers rt task (startWorkload task handle manifest reserved) := by
  have hk := hr.known
  have hop : rt.operation task ≠ some .receive := by rw [op]; decide
  cases hstatus : rt.startStatus task handle manifest reserved with
  | some status =>
    apply answers_of_answer status hk (startStatus_some hk _ hstatus) hop
    unfold startWorkload startWorkloadWithFailure
    simp only [run_self_bind, hstatus]
  | none =>
    have hstaged := startStatus_none hstatus
    obtain ⟨rfl, hr0⟩ : task = senderTaskId ∧ rt.task0.state = .running := by
      rcases hr with hr | ⟨-, hr⟩
      · exact hr
      · rw [hstaged] at hr
        cases hr
    have hq : rt.queue = RunQueue.ofList [] :=
      h.valid.queue_nil h.id0 h.id1 (by rw [hr0]; decide) (by rw [hstaged]; decide)
    rcases run_installRoutes rt.task1.capabilities with ⟨e, hroutes⟩ | ⟨t, hroutes, hbuilding, hlaunch⟩
    · -- the launch is abandoned: the runtime is put back before the answer
      apply answers_of_answer .invalidManifest hk (by decide) hop
      have hinstall : (onTable receiverTaskId (fun e : RuntimeError => e) (Method.attempt
          (installRoutes (registeredLaunchManifest.routes.toList.take
            registeredLaunchManifest.routeCount.toNat)))).run rt = (.ok (.error e), _) :=
        run_onTable_ok (.inr rfl) (run_attempt_of hroutes)
      unfold startWorkload startWorkloadWithFailure
      simp only [run_self_bind, hstatus, reduceCtorEq, if_false]
      rw [run_bind_ok hinstall]
      rfl
    · refine ⟨_, _, .launched op rfl h.profile hstaged hlaunch, fun hv => ?_⟩
      have hinstall : (onTable receiverTaskId (fun e : RuntimeError => e) (Method.attempt
          (installRoutes (registeredLaunchManifest.routes.toList.take
            registeredLaunchManifest.routeCount.toNat)))).run rt = (.ok (.ok ()), _) :=
        run_onTable_ok (.inr rfl) (run_attempt_of hroutes)
      have hpublish : (onTable receiverTaskId (fun e : RuntimeError => e)
          (Method.attempt CapabilityTable.publish)).run
          (mapSlot receiverTaskId (TaskSlot.withTable t) rt) = (.ok (.ok ()), _) :=
        run_onTable_ok (.inr rfl) (run_attempt_of (run_publish hbuilding))
      unfold startWorkload startWorkloadWithFailure
      simp only [run_self_bind, hstatus, reduceCtorEq, if_false]
      rw [run_bind_ok hinstall]
      dsimp only
      rw [run_bind_ok hpublish]
      dsimp only
      rw [run_update_bind]
      rw [run_bind_ok (run_onQueue_push (by simpa using hq) _)]
      exact run_answerChecked (.inl rfl) hv

/-! ## Submit -/

theorem submitStatus_some {kind : UInt64} (hk : KnownTask task) :
    ∀ status ∈ rt.submitStatus task handle kind, Refusal status := by
  refine forall_mem_guard (by decide) ?_
  split
  · rename_i hres
    rintro _ ⟨⟩
    exact refusal_of_handle (resolveObject_error hk hres)
  · exact forall_mem_guard (by decide)
      (forall_mem_guard (by decide) (forall_mem_guard (by decide) nofun))

theorem submitStatus_none {kind : UInt64} (h : rt.submitStatus task handle kind = none) :
    rt.broker.state = .empty ∧ rt.broker.sequenceExhausted = false ∧
      rt.broker.decisionEpoch ≠ u64Max ∧ kind = approvalRequestKindCommitSyntheticValue ∧
      task = receiverTaskId := by
  have hbound := (guard_eq_none.mp h).2
  split at hbound
  · cases hbound
  · simp only [guard_eq_none, not_or, not_not, ne_eq, Bool.not_eq_true] at hbound
    obtain ⟨⟨hbuilding, hclosing, hdead, hexh, hepoch⟩, ⟨hpending, happroved⟩, ⟨hkind, htask, -⟩, -⟩ :=
      hbound
    refine ⟨?_, hexh, hepoch, hkind, htask⟩
    cases hs : rt.broker.state with
    | empty => rfl
    | building => exact absurd hs hbuilding
    | closing => exact absurd hs hclosing
    | dead => exact absurd hs hdead
    | pending => exact absurd hs hpending
    | approved => exact absurd hs happroved

theorem submitApproval_answers (h : SupCore rt) (hr : rt.Running task)
    (op : rt.operation task = some .submitApproval) (handle : UInt64) :
    Answers rt task (submitApproval task handle (rt.input task).rsi (rt.input task).rdx) := by
  have hk := hr.known
  cases hstatus : rt.submitStatus task handle (rt.input task).rsi with
  | some status =>
    apply answers_of_answerChecked status hk (submitStatus_some hk _ hstatus) (by rw [op]; decide)
    unfold submitApproval
    simp only [run_self_bind, hstatus]
  | none =>
    obtain ⟨hidle, hexh, hepoch, hkind, rfl⟩ := submitStatus_none hstatus
    have hr1 : rt.task1.state = .running := hr.state
    obtain ⟨hready, hq⟩ := h.supervisor_ready hr1 (by rw [hidle]; decide) (by rw [hidle]; decide)
    refine ⟨_, _, .submitted op rfl h.profile hidle hkind hexh hepoch hq, fun hv => ?_⟩
    unfold submitApproval
    simp only [run_self_bind, hstatus, checkedAdd_one hepoch]
    rw [run_update_bind]
    rw [run_bind_ok (run_setState (.inr rfl) _)]
    have hdispatch : dispatchNext.run (mapSlot receiverTaskId (TaskSlot.withState .blockedApproval)
        { rt with broker := rt.broker.submit (rt.input receiverTaskId).rsi
                    (rt.input receiverTaskId).rdx (rt.broker.decisionEpoch + 1) })
        = (.ok (some senderTaskId), _) :=
      run_dispatchNext (by rw [mapSlot_receiver]; simp [hready])
        (show TaskState.blockedApproval ≠ .running by decide)
        (by rw [mapSlot_queue, hq]; rfl) (.inl rfl) hready hv
    rw [run_bind_ok (run_dispatchSome hdispatch), run_bind, run_query]
    simp only [mapSlot_receiver, mapSlot_sender] at hv ⊢
    erw [hv]
    rfl

/-! ## Inspect -/

theorem inspectStatus_some {a b : UInt64} (hk : KnownTask task) :
    ∀ status ∈ rt.inspectStatus task handle a b, Refusal status := by
  refine forall_mem_guard (by decide) (forall_mem_guard (by decide) ?_)
  split
  · rename_i hres
    rintro _ ⟨⟩
    exact refusal_of_handle (resolveObject_error hk hres)
  · exact forall_mem_guard (by split <;> decide) nofun

theorem inspectStatus_none {a b : UInt64} (h : rt.inspectStatus task handle a b = none) :
    rt.broker.state = .pending := by
  have hbound := (guard_eq_none.mp (guard_eq_none.mp h).2).2
  split at hbound
  · cases hbound
  · have hpending := (guard_eq_none.mp hbound).1
    rw [not_or] at hpending
    exact not_not.mp hpending.1

theorem inspectApproval_answers (h : SupCore rt) (hr : rt.Running task)
    (op : rt.operation task = some .inspectApproval) (handle a b : UInt64) :
    Answers rt task (inspectApproval task handle a b) := by
  have hk := hr.known
  cases hstatus : rt.inspectStatus task handle a b with
  | some status =>
    apply answers_of_answerChecked status hk (inspectStatus_some hk _ hstatus) (by rw [op]; decide)
    unfold inspectApproval
    simp only [run_self_bind, hstatus]
  | none =>
    refine ⟨_, _, .inspected op h.profile (inspectStatus_none hstatus), fun hv => ?_⟩
    unfold inspectApproval
    simp only [run_self_bind, hstatus]
    rw [run_bind_ok (run_modifySlot hk _), run_bind, run_query]
    erw [hv]
    rfl

/-! ## Decide -/

theorem decideStatus_some {sequence decision : UInt64} (hk : KnownTask task) :
    ∀ status ∈ rt.decideStatus task handle sequence decision, Refusal status := by
  refine forall_mem_guard (by decide) ?_
  split
  · rename_i hres
    rintro _ ⟨⟩
    exact refusal_of_handle (resolveObject_error hk hres)
  · exact forall_mem_guard (by decide)
      (forall_mem_guard (by decide) (forall_mem_guard (by decide) nofun))

/-- A decision that is not rejected names the held request, and fits its state. -/
theorem decideStatus_none {sequence decision : UInt64}
    (h : rt.decideStatus task handle sequence decision = none) :
    rt.broker.requestPresent = true ∧ rt.broker.request.sequence = sequence ∧
      ((decision = decisionApprove ∧ rt.broker.state = .pending) ∨
        (decision = decisionDeny ∧ rt.broker.state = .pending) ∨ decision = decisionExpire) := by
  have hbound := (guard_eq_none.mp h).2
  split at hbound
  · cases hbound
  · simp only [guard_eq_none, not_or, not_and, not_not, ne_eq] at hbound
    obtain ⟨-, ⟨hheld, hnames⟩, ⟨hknown, happrove, hdeny, -⟩, -⟩ := hbound
    refine ⟨by simpa using hheld, hnames, ?_⟩
    by_cases ha : decision = decisionApprove
    · exact .inl ⟨ha, happrove ha⟩
    · by_cases hd : decision = decisionDeny
      · exact .inr (.inl ⟨hd, hdeny hd⟩)
      · exact .inr (.inr (hknown hd ha))

/-- The epoch counter has run out: the broker closes and the workload is told. -/
theorem run_exhaustBroker (hb : rt.task1.state = .blockedApproval)
    (hq : rt.queue = RunQueue.ofList []) :
    (exhaustBroker senderTaskId).run rt = (answerChecked senderTaskId .brokerUnavailable 0).run
      { rt with
        task1 := rt.task1.woken .brokerUnavailable 0
        broker := { rt.broker.clearRequest with state := .closing }
        queue := RunQueue.ofList [receiverTaskId] } := by
  have hfail : failBrokerEpochExhaustion.run rt = (.ok (), { rt with
      task1 := rt.task1.woken .brokerUnavailable 0
      broker := { rt.broker.clearRequest with state := .closing }
      queue := RunQueue.ofList [receiverTaskId] }) := by
    unfold failBrokerEpochExhaustion
    rw [run_bind, run_query, slot_of_known (.inr rfl)]
    simp only [slotOf_receiver, hb, if_true]
    rw [run_bind_ok (run_wakeWorkload hb hq _ _)]
    rfl
  unfold exhaustBroker
  rw [run_bind_ok hfail]

/-- A denial and an expiry both end the request and tell the workload. -/
theorem run_applyDecision_conclude {decision : UInt64} (hb : rt.task1.state = .blockedApproval)
    (hq : rt.queue = RunQueue.ofList [])
    (hd : (decision = decisionDeny ∧ status = .approvalDenied) ∨
      (decision = decisionExpire ∧ status = .approvalExpired)) (epoch : UInt64) :
    (applyDecision decision epoch).run rt =
      (.ok (), { rt with
        task1 := rt.task1.woken status 0
        broker := rt.broker.conclude epoch
        queue := RunQueue.ofList [receiverTaskId] }) := by
  have hwake := @run_wakeWorkload { rt with broker := rt.broker.conclude epoch } hb hq status 0
  unfold applyDecision
  rcases hd with ⟨rfl, rfl⟩ | ⟨rfl, rfl⟩
  · rw [if_neg (by decide), if_pos rfl, run_update_bind]
    exact hwake
  · rw [if_neg (by decide), if_neg (by decide), if_pos rfl, run_update_bind]
    exact hwake

theorem decideApproval_answers (h : SupCore rt) (hr : rt.Running task)
    (op : rt.operation task = some .decideApproval) (handle : UInt64) :
    Answers rt task (decideApproval task handle (rt.input task).rsi (rt.input task).rdx) := by
  have hk := hr.known
  cases hstatus : rt.decideStatus task handle (rt.input task).rsi (rt.input task).rdx with
  | some status =>
    apply answers_of_answerChecked status hk (decideStatus_some hk _ hstatus) (by rw [op]; decide)
    unfold decideApproval
    simp only [run_self_bind, hstatus]
  | none =>
    obtain ⟨hpresent, hnames, hdecision⟩ := decideStatus_none hstatus
    have hopen := h.open_of_present hpresent
    have hb := h.blocked_of_open hopen
    obtain ⟨rfl, hr0, hq⟩ := h.supervisor_runs hr hb
    by_cases hmax : rt.broker.decisionEpoch = u64Max
    · refine ⟨_, _, .exhausted op rfl h.profile hopen (.inl hmax), fun hv => ?_⟩
      unfold decideApproval
      simp only [run_self_bind, hstatus, checkedAdd_one_none.mpr hmax]
      exact (run_exhaustBroker hb hq).trans (run_answerChecked (.inl rfl) hv)
    · have hrun : (decideApproval senderTaskId handle (rt.input senderTaskId).rsi
          (rt.input senderTaskId).rdx).run rt =
          (if (rt.input senderTaskId).rdx = decisionApprove ∧
              rt.broker.decisionEpoch + 1 = u64Max then exhaustBroker senderTaskId
            else applyDecision (rt.input senderTaskId).rdx (rt.broker.decisionEpoch + 1) >>= fun _ =>
              answerChecked senderTaskId .ok 0).run rt := by
        unfold decideApproval
        simp only [run_self_bind, hstatus, checkedAdd_one hmax]
      rcases hdecision with ⟨hd, hpending⟩ | ⟨hd, hpending⟩ | hd
      · by_cases hexpiry : rt.broker.decisionEpoch + 1 = u64Max
        · refine ⟨_, _, .exhausted op rfl h.profile hopen (.inr hexpiry), fun hv => ?_⟩
          rw [hrun, if_pos ⟨hd, hexpiry⟩]
          exact (run_exhaustBroker hb hq).trans (run_answerChecked (.inl rfl) hv)
        · refine ⟨_, _, .approved op rfl h.profile hpending hnames hd hmax hexpiry, fun hv => ?_⟩
          rw [hrun, if_neg fun hbad => hexpiry hbad.2, hd]
          exact run_answerChecked (.inl rfl) hv
      · refine ⟨_, _, .concluded op rfl h.profile hopen hnames (.inl ⟨hd, rfl, hpending⟩) hmax,
          fun hv => ?_⟩
        rw [hrun, if_neg fun hbad => absurd (hd.symm.trans hbad.1) (by decide),
          run_bind_ok (run_applyDecision_conclude hb hq (.inl ⟨hd, rfl⟩) _)]
        exact run_answerChecked (.inl rfl) hv
      · refine ⟨_, _, .concluded op rfl h.profile hopen hnames (.inr ⟨hd, rfl⟩) hmax,
          fun hv => ?_⟩
        rw [hrun, if_neg fun hbad => absurd (hd.symm.trans hbad.1) (by decide),
          run_bind_ok (run_applyDecision_conclude hb hq (.inr ⟨hd, rfl⟩) _)]
        exact run_answerChecked (.inl rfl) hv

/-! ## Commit -/

/-- What the guards of `commit_effect` before the expiry check have established. -/
theorem commitStatus_cases (handle sequence argument : UInt64) (hk : KnownTask task)
    (hp : rt.profile = .supervised) :
    (∃ status, rt.commitStatus task handle sequence argument = some status ∧ status ≠ .ok ∧
        (status = .approvalExpired → rt.broker.state = .approved ∧
          rt.broker.decisionEpoch ≥ rt.broker.expiryEpoch)) ∨
      (rt.commitStatus task handle sequence argument = none ∧ rt.broker.state = .approved ∧
        rt.broker.request.sequence = sequence ∧ rt.broker.request.argument = argument ∧
        rt.effect.occupied = false ∧ rt.effect.objectGeneration ≠ 0) := by
  unfold commitStatus
  rw [if_neg (not_not.mpr hp)]
  split
  · rename_i status hres
    have hmem := resolveObject_error hk hres
    exact .inl ⟨status, rfl, (refusal_of_handle hmem).1,
      fun he => absurd he (refusal_of_handle hmem).2⟩
  · rename_i hres
    split
    · exact .inl ⟨_, rfl, by decide, fun he => absurd he (by decide)⟩
    · rename_i hmatch
      simp only [not_or, not_not, ne_eq] at hmatch
      split
      · exact .inl ⟨_, rfl, by decide, fun he => absurd he (by decide)⟩
      · rename_i hvacant
        split
        · rename_i hexpired
          exact .inl ⟨_, rfl, by decide, fun _ => ⟨hmatch.1, hexpired⟩⟩
        · exact .inr ⟨rfl, hmatch.1, hmatch.2.2.1, hmatch.2.2.2.1, by simpa using hvacant,
            resolveObject_generation hk hres⟩

/-- An approval expires one epoch after the current one. -/
theorem SupInv.expiry (h : SupInv rt) (ha : rt.broker.state = .approved) :
    rt.broker.expiryEpoch = rt.broker.decisionEpoch + 1 ∧
      ¬ rt.broker.decisionEpoch ≥ rt.broker.expiryEpoch := by
  obtain ⟨hepoch, hmax⟩ := h.approved_epoch ha
  have hb := h.sup.broker_state
  unfold BrokerStateOk at hb
  rw [ha] at hb
  have hexpiry : rt.broker.expiryEpoch = rt.broker.decisionEpoch + 1 := by
    rw [hb.2.2.2.1, hepoch, saturatingAdd_one hmax]
  refine ⟨hexpiry, ?_⟩
  rw [hexpiry, ge_iff_le, UInt64.le_iff_toNat_le, toNat_add_one hmax]
  omega

theorem commitEffect_answers (h : SupInv rt) (hr : rt.Running task)
    (op : rt.operation task = some .commitEffect) (handle : UInt64) :
    Answers rt task (commitEffect task handle (rt.input task).rsi (rt.input task).rdx) := by
  have hk := hr.known
  rcases commitStatus_cases handle (rt.input task).rsi (rt.input task).rdx hk h.profile
    with ⟨status, hstatus, hne, hexp⟩ | ⟨hstatus, happroved, hseq, harg, hvacant, hbound⟩
  · have hunexpired : status ≠ .approvalExpired := fun he =>
      (SupInv.expiry h (hexp he).1).2 (hexp he).2
    apply answers_of_answerChecked status hk ⟨hne, hunexpired⟩ (by rw [op]; decide)
    unfold commitEffect
    simp only [run_self_bind, hstatus]
  · have hb := h.blocked_of_open (.inr happroved)
    obtain ⟨rfl, hr0, hq⟩ := h.supervisor_runs hr hb
    have hmax := (h.approved_epoch happroved).2
    have hexpiry := (SupInv.expiry h happroved).1
    have hwake := @run_wakeWorkload
      { rt with
        effect := { rt.effect with occupied := true, value := (rt.input senderTaskId).rdx }
        broker := rt.broker.conclude (rt.broker.decisionEpoch + 1) }
      hb hq .ok (rt.input senderTaskId).rdx
    refine ⟨_, _, .committed op rfl h.profile happroved hseq harg hvacant hbound hmax,
      fun hv => ?_⟩
    unfold commitEffect
    simp only [run_self_bind, hstatus, checkedAdd_one hmax]
    rw [if_neg (not_not.mpr hexpiry.symm), run_update_bind]
    rw [run_bind_ok hwake]
    exact run_answerChecked (.inl rfl) hv

/-! ## All operations -/

theorem supervised_answers (h : SupInv rt) (hr : rt.Running task) :
    Answers rt task (handleTrap task) := by
  have hs := h.inService hr
  have hk := hr.known
  apply handleTrap_answers hs
  intro o op
  cases o with
  | yield => exact yieldTask_answers hs op _ _ _
  | send => exact send_answers_supervised h.toSupCore hk op _ _ _
  | receive => exact receive_answers_supervised h.toSupCore hk
  | exit => exact exit_answers hs op _ _ _
  | duplicate => exact duplicate_answers hs op _
  | close => exact close_answers hs op _ _ _
  | startWorkload => exact startWorkload_answers h.toSupCore hr op _ _ _
  | submitApproval => exact submitApproval_answers h.toSupCore hr op _
  | inspectApproval => exact inspectApproval_answers h.toSupCore hr op _ _ _
  | decideApproval => exact decideApproval_answers h.toSupCore hr op _
  | commitEffect => exact commitEffect_answers h hr op _
  | inspectEffectJournal | readEffectRecord =>
    exact answers_of_answerChecked .invalidOperation hk (by decide) (by rw [op]; decide) rfl

end Runtime

end MakopaVerified.TaskRuntime
