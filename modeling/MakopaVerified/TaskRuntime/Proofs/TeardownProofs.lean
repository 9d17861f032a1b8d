import MakopaVerified.TaskRuntime.Proofs.CommonTrapProofs

/-!
# The two phases of a teardown

`begin_teardown` succeeds exactly on an exited task whose table is still live, and
`complete_teardown` goes on to a dispatch exactly on an exited task whose table is closing. What
they do is `TeardownBegun` and `TeardownCompleted`.
-/

namespace MakopaVerified.TaskRuntime

open Foundation Method TaskRuntime.Runtime CapabilityTable

/-- A runtime whose task `task` has exited. -/
structure Exited (rt : Runtime) (task : UInt64) : Prop where
  known : KnownTask task
  state : (rt.slotOf task).state = .exited

theorem SlotsOk.queue_nil {rt : Runtime} (h : SlotsOk rt) (id0 : rt.task0.id = senderTaskId)
    (id1 : rt.task1.id = receiverTaskId) (h0 : rt.task0.state ≠ .ready)
    (h1 : rt.task1.state ≠ .ready) : rt.queue = RunQueue.ofList [] := by
  rcases h.queue.without_sender (id0 ▸ h.slot0.not_queued h0) with hq | hq
  · exact hq
  · exact absurd (h.ready1 id1 hq) h1

/-- The peer of an exited task is the one task in the queue, or it waits or is dead. -/
theorem SlotsOk.peer_of_exited {rt : Runtime} {task : UInt64} (h : SlotsOk rt)
    (id0 : rt.task0.id = senderTaskId) (id1 : rt.task1.id = receiverTaskId)
    (hphase : Phase rt.task0.state rt.task1.state) (hx : Exited rt task) :
    (rt.slotOf (peerOf task)).state = .ready ∧ rt.queue = RunQueue.ofList [peerOf task] ∨
      ((rt.slotOf (peerOf task)).state = .dead ∨ (rt.slotOf (peerOf task)).state = .staged ∨
        (rt.slotOf (peerOf task)).state = .blockedReceive ∨
          (rt.slotOf (peerOf task)).state = .blockedApproval) ∧ rt.queue = RunQueue.ofList [] := by
  have hpassive : (rt.slotOf (peerOf task)).state.isActive = false := by
    rcases hx.known with rfl | rfl
    · exact hphase.second_passive (congrArg TaskState.isActive hx.state)
    · exact hphase.first_passive (congrArg TaskState.isActive hx.state)
  have hn : (rt.slotOf task).state ≠ .ready := hx.state.trans_ne (by decide)
  by_cases hr : (rt.slotOf (peerOf task)).state = .ready
  · refine .inl ⟨hr, ?_⟩
    rcases hx.known with rfl | rfl
    · refine (h.queue.without_sender (id0 ▸ h.slot0.not_queued hn)).resolve_left fun hq => ?_
      have := h.slot1.ready_iff.mp hr
      rw [hq] at this
      cases this
    · refine (h.queue.without_receiver (id1 ▸ h.slot1.not_queued hn)).resolve_left fun hq => ?_
      have := h.slot0.ready_iff.mp hr
      rw [hq] at this
      cases this
  · refine .inr ⟨?_, ?_⟩
    · cases hs : (rt.slotOf (peerOf task)).state with
      | ready => exact absurd hs hr
      | running | exited =>
        rw [hs] at hpassive
        cases hpassive
      | dead | staged | blockedReceive | blockedApproval => decide
    · rcases hx.known with rfl | rfl
      · exact h.queue_nil id0 id1 hn hr
      · exact h.queue_nil id0 id1 hr hn

/-- The first task is gone, and the second, which waited for it, is ready with a result. -/
theorem SlotsOk.closedAndWoken {rt : Runtime} (h : SlotsOk rt) (id0 : rt.task0.id = senderTaskId)
    (id1 : rt.task1.id = receiverTaskId) (hs0 : rt.task0.state = .exited)
    (hlive : rt.task0.capabilities.state = .live) (hlive1 : rt.task1.state.isLive = true)
    (hn : rt.task1.state ≠ .ready) (status : TrapStatus) :
    SlotsOk { rt with
      task0 := rt.task0.withTable rt.task0.capabilities.closed
      task1 := rt.task1.woken status 0
      queue := RunQueue.ofList [receiverTaskId] } where
  queue := ⟨_, .receiver, rfl⟩
  one_running hr := nomatch hr.2
  slot0 := (h.slot0.close hs0 hlive).requeue (by
    rw [h.queue_nil id0 id1 (by rw [hs0]; decide) hn]
    show (RunQueue.ofList [receiverTaskId]).contains rt.task0.id = _
    rw [id0]
    rfl)
  slot1 := (h.slot1.answered status 0).move hlive1 (.inl rfl) (by
    show _ ↔ (RunQueue.ofList [receiverTaskId]).contains rt.task1.id = true
    rw [id1]
    decide)

namespace Runtime

variable {rt : Runtime} {task : UInt64}

/-! ## First phase -/

/-- `begin_teardown` refuses a task that has not exited or whose table is not live. -/
theorem beginTeardown_ok {rt' : Runtime} (h : (beginTeardown task).run rt = (.ok (), rt')) :
    Exited rt task ∧ (rt.slotOf task).capabilities.state = .live := by
  unfold beginTeardown at h
  rw [run_restoring_ok] at h
  unfold beginTeardownInner at h
  rw [run_bind_eq_ok] at h
  obtain ⟨slot, rt₁, hslot, h⟩ := h
  rw [run_query, Prod.mk.injEq] at hslot
  obtain ⟨hslot, rfl⟩ := hslot
  have hk : KnownTask task := known_of_slot hslot
  rw [slot_of_known hk] at hslot
  obtain rfl := Except.ok.inj hslot
  rw [run_ite] at h
  split at h
  · cases h
  · rename_i hstate
    have hmark : ∀ {α : Type} {m : Method Runtime RuntimeError α} {a : α},
        ((onTable task id CapabilityTable.markClosing >>= fun _ => m).run rt = (.ok a, rt')) →
          (rt.slotOf task).capabilities.state = .live := by
      intro α m a hm
      by_contra hne
      rw [run_bind, run_onTable hk] at hm
      unfold CapabilityTable.markClosing at hm
      rw [run_bind] at hm
      simp [hne] at hm
    refine ⟨⟨hk, not_not.mp hstate⟩, ?_⟩
    rw [run_bind] at h
    simp only [run_self, run_ite] at h
    split at h
    · exact hmark h
    · by_contra hne
      rw [run_bind, run_onTable hk] at h
      unfold CapabilityTable.beginClosing CapabilityTable.markClosing at h
      rw [run_bind, run_bind] at h
      simp [hne] at h

/-- The first phase in the cooperative profile. -/
theorem beginTeardown_cooperative (hp : rt.profile = .cooperative) (hs : SlotsOk rt)
    (id0 : rt.task0.id = senderTaskId) (id1 : rt.task1.id = receiverTaskId) (hx : Exited rt task)
    (hlive : (rt.slotOf task).capabilities.state = .live) :
    ∃ rt', TeardownBegun rt task rt' ∧
      (rt'.validate = .ok () → (beginTeardown task).run rt = (.ok (), rt')) := by
  have hclose : (onTable task id CapabilityTable.beginClosing).run rt = _ :=
    run_onTable_ok hx.known (run_beginClosing hlive)
  have hstart : ∀ {m : Method Runtime RuntimeError Unit} {rt' : Runtime},
      (beginTeardownInner task).run rt = (m >>= fun _ => query validate).run
        (mapSlot task (TaskSlot.withTable (rt.slotOf task).capabilities.closed) rt) →
      m.run (mapSlot task (TaskSlot.withTable (rt.slotOf task).capabilities.closed) rt)
        = (.ok (), rt') → rt'.validate = .ok () → (beginTeardown task).run rt = (.ok (), rt') := by
    intro m rt' hinner hm hv
    unfold beginTeardown
    rw [run_restoring_ok, hinner, run_bind_ok hm, run_query, hv]
  have hinner : (beginTeardownInner task).run rt =
      ((if task = senderTaskId then releaseSender
        else if task = receiverTaskId then update releaseReceiver
        else fail .invalidTask) >>= fun _ => query validate).run
        (mapSlot task (TaskSlot.withTable (rt.slotOf task).capabilities.closed) rt) := by
    have hsup : ¬ rt.profile = .supervised := by rw [hp]; decide
    unfold beginTeardownInner
    rw [run_bind, run_query, slot_of_known hx.known]
    simp only [hx.state, ne_eq, not_true_eq_false, if_false]
    simp only [run_self_bind, hsup, if_false]
    rw [run_bind_ok hclose]
    rcases hx.known with rfl | rfl <;> rfl
  rcases hx.known with rfl | rfl
  · by_cases hwake : rt.endpoint.occupied = false ∧ rt.task1.state = .blockedReceive
    · have hq : rt.queue = RunQueue.ofList [] :=
        hs.queue_nil id0 id1 (by rw [show rt.task0.state = .exited from hx.state]; decide)
          (by rw [hwake.2]; decide)
      refine ⟨_, .senderWakes hp hwake.1 hwake.2, hstart hinner ?_⟩
      rw [if_pos rfl]
      unfold releaseSender
      rw [run_update_bind]
      rw [run_self_bind]
      rw [run_bind, run_query, slot_of_known (.inr rfl)]
      simp only [mapSlot_sender, slotOf_receiver, hwake.1, hwake.2, and_self, if_true]
      rw [run_bind_ok (run_setResult (.inr rfl) _ _),
        run_bind_ok (run_setState (.inr rfl) _)]
      exact run_onQueue_push (by simpa using hq) _
    · refine ⟨_, .sender hp hwake, hstart hinner ?_⟩
      rw [if_pos rfl]
      unfold releaseSender
      rw [run_update_bind]
      rw [run_self_bind]
      rw [run_bind, run_query, slot_of_known (.inr rfl)]
      simp only [mapSlot_sender, slotOf_receiver, hwake, if_false]
      rfl
  · refine ⟨_, .receiver hp, hstart hinner ?_⟩
    rfl

theorem run_wakeWorkload (hb : rt.task1.state = .blockedApproval)
    (hq : rt.queue = RunQueue.ofList []) (status : TrapStatus) (value : UInt64) :
    (wakeWorkload status value).run rt =
      (.ok (), { rt with
        task1 := rt.task1.woken status value
        queue := RunQueue.ofList [receiverTaskId] }) := by
  unfold wakeWorkload
  rw [run_bind, run_query, slot_of_known (.inr rfl)]
  simp only [slotOf_receiver, hb, ne_eq, not_true_eq_false, if_false]
  rw [run_bind_ok (run_setResult (.inr rfl) _ _),
    run_bind_ok (run_setState (.inr rfl) _)]
  exact run_onQueue_push (by simpa using hq) _

/-- The supervisor leaves a workload that does not wait for it. -/
theorem run_releaseSupervisor_quiet (hb : rt.task1.state ≠ .blockedApproval) :
    releaseSupervisor.run rt =
      (.ok (), { rt with
        broker :=
          { rt.broker.clearRequest with
            state := .closing
            supervisorTaskId := 0
            supervisorGeneration := 0 }
        effect := SyntheticEffect.empty }) := by
  unfold releaseSupervisor
  rw [run_bind, run_query, slot_of_known (.inr rfl)]
  simp only [slotOf_receiver, hb, if_false]
  rfl

/-- The supervisor leaves a workload that waits for a decision or a commit. -/
theorem run_releaseSupervisor_wakes (status : TrapStatus) (hb : rt.task1.state = .blockedApproval)
    (hq : rt.queue = RunQueue.ofList [])
    (told : (rt.broker.state = .pending ∧ status = .approvalDenied)
      ∨ (rt.broker.state = .approved ∧ status = .approvalExpired)) :
    releaseSupervisor.run rt =
      (.ok (), { rt with
        task1 := rt.task1.woken status 0
        queue := RunQueue.ofList [receiverTaskId]
        broker :=
          { rt.broker.clearRequest with
            state := .closing
            supervisorTaskId := 0
            supervisorGeneration := 0 }
        effect := SyntheticEffect.empty }) := by
  unfold releaseSupervisor
  rw [run_bind, run_query, slot_of_known (.inr rfl)]
  simp only [slotOf_receiver, hb, if_true]
  rw [run_self_bind]
  rcases told with ⟨h, rfl⟩ | ⟨h, rfl⟩ <;> rw [h, run_bind_ok (run_wakeWorkload hb hq _ _)] <;> rfl

/-- The first phase in the supervised profile. -/
theorem beginTeardown_supervised (hp : rt.profile = .supervised) (hs : SlotsOk rt)
    (id0 : rt.task0.id = senderTaskId) (id1 : rt.task1.id = receiverTaskId)
    (hwaiting : rt.task1.state = .blockedApproval →
      rt.broker.state = .pending ∨ rt.broker.state = .approved)
    (hx : Exited rt task) (hlive : (rt.slotOf task).capabilities.state = .live) :
    ∃ rt', TeardownBegun rt task rt' ∧
      (rt'.validate = .ok () → (beginTeardown task).run rt = (.ok (), rt')) := by
  have hmark : (onTable task id CapabilityTable.markClosing).run rt = _ :=
    run_onTable_ok hx.known (run_markClosing hlive)
  -- what is left once the handles are marked: the release, then closing every handle
  have hrest : ∀ {rt₁ rt₂ : Runtime},
      (if task = senderTaskId then releaseSupervisor
        else if task = receiverTaskId then update releaseWorkload
        else fail .invalidTask : Method Runtime RuntimeError Unit).run (mapSlot task
        (TaskSlot.withTable { (rt.slotOf task).capabilities with state := .closing }) rt)
        = (.ok (), rt₁) →
      (onTable task id CapabilityTable.closeAll).run rt₁ = (.ok (), rt₂) →
      rt₂.validate = .ok () → (beginTeardown task).run rt = (.ok (), rt₂) := by
    intro rt₁ rt₂ hrun hclose hv
    have hinner : (beginTeardownInner task).run rt =
        ((if task = senderTaskId then releaseSupervisor
          else if task = receiverTaskId then update releaseWorkload
          else fail .invalidTask) >>= fun _ =>
            onTable task id CapabilityTable.closeAll >>= fun _ => query validate).run
          (mapSlot task
            (TaskSlot.withTable { (rt.slotOf task).capabilities with state := .closing }) rt) := by
      unfold beginTeardownInner
      rw [run_bind, run_query, slot_of_known hx.known]
      simp only [hx.state, ne_eq, not_true_eq_false, if_false]
      simp only [run_self_bind, hp, if_true]
      rw [run_bind_ok hmark]
      rcases hx.known with rfl | rfl <;> rfl
    unfold beginTeardown
    rw [run_restoring_ok, hinner, run_bind_ok hrun, run_bind_ok hclose,
      run_query, hv]
  rcases hx.known with rfl | rfl
  · by_cases hb : rt.task1.state = .blockedApproval
    · have hq : rt.queue = RunQueue.ofList [] :=
        hs.queue_nil id0 id1 (by rw [show rt.task0.state = .exited from hx.state]; decide)
          (by rw [hb]; decide)
      obtain ⟨status, htold⟩ : ∃ status,
          (rt.broker.state = .pending ∧ status = TrapStatus.approvalDenied)
            ∨ (rt.broker.state = .approved ∧ status = .approvalExpired) := by
        rcases hwaiting hb with h | h
        · exact ⟨_, .inl ⟨h, rfl⟩⟩
        · exact ⟨_, .inr ⟨h, rfl⟩⟩
      refine ⟨_, .supervisorWakes hp hb htold, ?_⟩
      refine hrest (run_releaseSupervisor_wakes status ?_ ?_ ?_) ?_
      · exact hb
      · exact hq
      · exact htold
      · exact run_onTable_ok (.inl rfl) (run_closeAll rfl)
    · refine ⟨_, .supervisor hp hb, ?_⟩
      refine hrest (run_releaseSupervisor_quiet ?_) ?_
      · exact hb
      · exact run_onTable_ok (.inl rfl) (run_closeAll rfl)
  · refine ⟨_, .workload hp, hrest rfl ?_⟩
    exact run_onTable_ok (.inr rfl) (run_closeAll rfl)

/-! ## Second phase -/

/-- `complete_teardown` refuses a task that has not exited or whose handles are not closed. -/
theorem completeTeardown_ok {rt' : Runtime} {next : Option UInt64}
    (h : (completeTeardown task).run rt = (.ok next, rt')) :
    Exited rt task ∧ (rt.slotOf task).capabilities.state = .closing := by
  unfold completeTeardown at h
  rw [run_restoring_ok] at h
  unfold completeTeardownInner at h
  rw [run_bind_eq_ok] at h
  obtain ⟨slot, rt₁, hslot, h⟩ := h
  rw [run_query, Prod.mk.injEq] at hslot
  obtain ⟨hslot, rfl⟩ := hslot
  have hk : KnownTask task := known_of_slot hslot
  rw [slot_of_known hk] at hslot
  obtain rfl := Except.ok.inj hslot
  rw [run_ite] at h
  split at h
  · cases h
  · rename_i hguard
    simp only [not_or, not_not, ne_eq] at hguard
    exact ⟨⟨hk, hguard.1⟩, hguard.2⟩

/-- The second phase up to its check and dispatch. -/
theorem run_completeTeardownInner (hx : Exited rt task)
    (hclosing : (rt.slotOf task).capabilities.state = .closing)
    (hok : (rt.slotOf task).capabilities.TableOk) :
    (completeTeardownInner task).run rt =
      (do query validate; dispatchNext).run (rt.buried task) := by
  have hfinish : (onTable task id CapabilityTable.finishDead).run rt = _ :=
    run_onTable_ok hx.known (run_finishDead hclosing hok)
  unfold completeTeardownInner
  rw [run_bind, run_query, slot_of_known hx.known]
  simp only [hx.state, hclosing, ne_eq, not_true_eq_false, or_self, if_false]
  rw [run_bind_ok hfinish, run_bind_ok (run_modifySlot hx.known _), mapSlot_mapSlot]
  rfl

theorem run_completeTeardown_checked (hx : Exited rt task)
    (hclosing : (rt.slotOf task).capabilities.state = .closing)
    (hok : (rt.slotOf task).capabilities.TableOk) (hv : (rt.buried task).validate = .ok ()) :
    (completeTeardownInner task).run rt = dispatchNext.run (rt.buried task) := by
  rw [run_completeTeardownInner hx hclosing hok, run_bind, run_query, hv]

/-! ## The runtime of the second phase before its dispatch -/

section Buried

/-- The last task to go takes everything with it. -/
theorem buried_of_peer_dead (hk : KnownTask task) (hpeer : (rt.slotOf (peerOf task)).state = .dead) :
    rt.buried task =
      { mapSlot task TaskSlot.buried rt with
        endpoint := Endpoint.empty
        manifest := ManifestPublication.empty
        broker := ApprovalBroker.dead
        effect := SyntheticEffect.empty } := by
  unfold buried
  rcases hk with rfl | rfl
  · have h1 : rt.task1.state = .dead := hpeer
    by_cases hp : rt.profile = .supervised <;> simp [hp, tasks, h1, TaskSlot.buried]
  · have h0 : rt.task0.state = .dead := hpeer
    have hne : ¬ receiverTaskId = senderTaskId := by decide
    simp [hne, tasks, h0, TaskSlot.buried]

/-- Without a dead peer, only the slot changes, and with the supervisor its broker and effect. -/
theorem buried_of_peer_alive (hk : KnownTask task)
    (hpeer : (rt.slotOf (peerOf task)).state ≠ .dead) :
    rt.buried task =
      if rt.profile = .supervised ∧ task = senderTaskId then
        { mapSlot task TaskSlot.buried rt with
          broker := ApprovalBroker.dead
          effect := SyntheticEffect.empty }
      else mapSlot task TaskSlot.buried rt := by
  unfold buried
  rcases hk with rfl | rfl
  · have h1 : rt.task1.state ≠ .dead := hpeer
    by_cases hp : rt.profile = .supervised <;> simp [hp, tasks, h1, TaskSlot.buried]
  · have h0 : rt.task0.state ≠ .dead := hpeer
    have hne : ¬ receiverTaskId = senderTaskId := by decide
    simp [hne, tasks, h0, TaskSlot.buried]

theorem buried_queue (hk : KnownTask task) : (rt.buried task).queue = rt.queue := by
  by_cases hpeer : (rt.slotOf (peerOf task)).state = .dead
  · rw [buried_of_peer_dead hk hpeer]
    simp
  · rw [buried_of_peer_alive hk hpeer]
    split <;> simp

theorem buried_profile (hk : KnownTask task) : (rt.buried task).profile = rt.profile := by
  by_cases hpeer : (rt.slotOf (peerOf task)).state = .dead
  · rw [buried_of_peer_dead hk hpeer]
    simp
  · rw [buried_of_peer_alive hk hpeer]
    split <;> simp

theorem slotOf_buried_peer (hk : KnownTask task) :
    (rt.buried task).slotOf (peerOf task) = rt.slotOf (peerOf task) := by
  by_cases hpeer : (rt.slotOf (peerOf task)).state = .dead
  · rw [buried_of_peer_dead hk hpeer]
    rcases hk with rfl | rfl <;> rfl
  · rw [buried_of_peer_alive hk hpeer]
    rcases hk with rfl | rfl <;> split <;> rfl

theorem slotOf_buried_self (hk : KnownTask task) :
    (rt.buried task).slotOf task = (rt.slotOf task).buried := by
  by_cases hpeer : (rt.slotOf (peerOf task)).state = .dead
  · rw [buried_of_peer_dead hk hpeer]
    rcases hk with rfl | rfl <;> rfl
  · rw [buried_of_peer_alive hk hpeer]
    rcases hk with rfl | rfl <;> split <;> rfl

end Buried

theorem peerOf_known (hk : KnownTask task) : KnownTask (peerOf task) := by
  rcases hk with rfl | rfl
  · exact .inr rfl
  · exact .inl rfl

/-- The second phase ends with the dispatch of a ready peer, or with nothing left to run. -/
theorem completeTeardown_completes (hx : Exited rt task)
    (hclosing : (rt.slotOf task).capabilities.state = .closing)
    (hok : (rt.slotOf task).capabilities.TableOk) (hv : (rt.buried task).validate = .ok ())
    (hpeer : (rt.slotOf (peerOf task)).state = .ready
        ∧ rt.queue = RunQueue.ofList [peerOf task]
      ∨ (rt.slotOf (peerOf task)).state = .dead ∧ rt.queue = RunQueue.ofList []) :
    ∃ next rt', TeardownCompleted rt task next rt' ∧
      (rt'.validate = .ok () → (completeTeardown task).run rt = (.ok next, rt')) := by
  have hrun : ∀ {next : Option UInt64} {rt' : Runtime},
      dispatchNext.run (rt.buried task) = (.ok next, rt') →
      (completeTeardown task).run rt = (.ok next, rt') := by
    intro next rt' hd
    unfold completeTeardown
    rw [run_restoring_ok, run_completeTeardown_checked hx hclosing hok hv, hd]
  have hself : (rt.buried task).slotOf task = (rt.slotOf task).buried :=
    slotOf_buried_self hx.known
  have hother : (rt.buried task).slotOf (peerOf task) = rt.slotOf (peerOf task) :=
    slotOf_buried_peer hx.known
  rcases hpeer with ⟨hready, hq⟩ | ⟨hdead, hq⟩
  · refine ⟨_, _, .handedOver hready, fun hv' => hrun ?_⟩
    have hstates : (rt.buried task).task0.state ≠ .running ∧
        (rt.buried task).task1.state ≠ .running := by
      rcases hx.known with rfl | rfl
      · have h0 : (rt.buried senderTaskId).task0.state = .dead := by
          rw [← slotOf_sender, hself]
          rfl
        have h1 : (rt.buried senderTaskId).task1.state = .ready := by
          rw [← slotOf_receiver]
          exact (congrArg TaskSlot.state hother).trans hready
        rw [h0, h1]
        decide
      · have h0 : (rt.buried receiverTaskId).task0.state = .ready := by
          rw [← slotOf_sender]
          exact (congrArg TaskSlot.state hother).trans hready
        have h1 : (rt.buried receiverTaskId).task1.state = .dead := by
          rw [← slotOf_receiver, hself]
          rfl
        rw [h0, h1]
        decide
    apply run_dispatchNext hstates.1 hstates.2
    · rw [buried_queue hx.known, hq]
      rfl
    · exact peerOf_known hx.known
    · rw [hother]
      exact hready
    · exact hv'
  · refine ⟨_, _, .finished hdead, fun _ => hrun ?_⟩
    have hstates : (rt.buried task).task0.state = .dead ∧ (rt.buried task).task1.state = .dead := by
      rcases hx.known with rfl | rfl
      · rw [← slotOf_sender, ← slotOf_receiver, hself]
        exact ⟨rfl, (congrArg TaskSlot.state hother).trans hdead⟩
      · rw [← slotOf_sender, ← slotOf_receiver, hself]
        exact ⟨(congrArg TaskSlot.state hother).trans hdead, rfl⟩
    rw [run_dispatchNext_nil (by rw [hstates.1]; decide) (by rw [hstates.2]; decide)
      (by rw [buried_queue hx.known, hq]), if_pos hstates]

/-- The second phase is refused, and leaves no trace, when the peer is neither queued nor dead. -/
theorem completeTeardown_refuses (hx : Exited rt task)
    (hclosing : (rt.slotOf task).capabilities.state = .closing)
    (hok : (rt.slotOf task).capabilities.TableOk) (hv : (rt.buried task).validate = .ok ())
    (hidle : (rt.slotOf (peerOf task)).state ≠ .running)
    (halive : (rt.slotOf (peerOf task)).state ≠ .dead) (hq : rt.queue = RunQueue.ofList []) :
    (completeTeardown task).run rt = (.error .noRunnableTask, rt) := by
  have hself : ((rt.buried task).slotOf task).state = .dead := by
    rw [slotOf_buried_self hx.known]
    rfl
  have hother : ((rt.buried task).slotOf (peerOf task)).state = (rt.slotOf (peerOf task)).state :=
    congrArg TaskSlot.state (slotOf_buried_peer hx.known)
  have hdispatch : dispatchNext.run (rt.buried task) =
      (.error .noRunnableTask, rt.buried task) := by
    rw [← hother] at hidle halive
    have hqueue : (rt.buried task).queue = RunQueue.ofList [] := by
      rw [buried_queue hx.known, hq]
    rcases hx.known with rfl | rfl
    · rw [run_dispatchNext_nil (by rw [← slotOf_sender, hself]; decide) hidle hqueue,
        if_neg fun hd => halive hd.2]
    · rw [run_dispatchNext_nil hidle (by rw [← slotOf_receiver, hself]; decide) hqueue,
        if_neg fun hd => halive hd.1]
  unfold completeTeardown
  rw [run_restoring, run_completeTeardown_checked hx hclosing hok hv, hdispatch]

end Runtime

/-! ## The check during the second phase -/

namespace SlotsOk

variable {rt : Runtime} {task : UInt64}

/-- The shared part of the check before the dispatch. -/
theorem buried (h : SlotsOk rt) (hx : Exited rt task) : SlotsOk (rt.buried task) := by
  have hslots : SlotsOk (mapSlot task TaskSlot.buried rt) := by
    rcases hx.known with rfl | rfl
    · exact
        { h with
          one_running := fun hr => nomatch hr.1
          slot0 := h.slot0.buried hx.state }
    · exact
        { h with
          one_running := fun hr => nomatch hr.2
          slot1 := h.slot1.buried hx.state }
  by_cases hpeer : (rt.slotOf (peerOf task)).state = .dead
  · rw [buried_of_peer_dead hx.known hpeer]
    exact { hslots with }
  · rw [buried_of_peer_alive hx.known hpeer]
    split
    · exact { hslots with }
    · exact hslots

/-- The shared part of the check after the dispatch of the peer. -/
theorem handedOver (h : SlotsOk rt) (hx : Exited rt task)
    (hready : (rt.slotOf (peerOf task)).state = .ready) :
    SlotsOk (mapSlot (peerOf task) (TaskSlot.withState .running)
      { rt.buried task with queue := RunQueue.ofList [] }) := by
  have hb := h.buried hx
  have hself : (rt.buried task).slotOf task = (rt.slotOf task).buried :=
    slotOf_buried_self hx.known
  have hother : (rt.buried task).slotOf (peerOf task) = rt.slotOf (peerOf task) :=
    slotOf_buried_peer hx.known
  have hstate : ((rt.buried task).slotOf (peerOf task)).state = .ready :=
    (congrArg TaskSlot.state hother).trans hready
  have hdead : ((rt.buried task).slotOf task).state = .dead := by rw [hself]; rfl
  have hqueue : ∀ {s : TaskSlot}, SlotOk (rt.buried task).queue s → s.state = .dead →
      SlotOk (RunQueue.ofList []) s := by
    intro s hs hd
    apply hs.requeue
    rw [RunQueue.contains_nil, eq_comm, Bool.eq_false_iff, ne_eq, ← hs.ready_iff, hd]
    decide
  rcases hx.known with rfl | rfl
  · exact
      { queue := ⟨_, .nil, rfl⟩
        one_running := fun hr => nomatch hdead.symm.trans hr.1
        slot0 := hqueue hb.slot0 hdead
        slot1 := hb.slot1.move (by rw [show (rt.buried senderTaskId).task1.state = _ from hstate]; rfl)
          (.inl rfl) ⟨nofun, nofun⟩ }
  · exact
      { queue := ⟨_, .nil, rfl⟩
        one_running := fun hr => nomatch hdead.symm.trans hr.2
        slot0 := hb.slot0.move
          (by rw [show (rt.buried receiverTaskId).task0.state = _ from hstate]; rfl)
          (.inl rfl) ⟨nofun, nofun⟩
        slot1 := hqueue hb.slot1 hdead }

end SlotsOk

end MakopaVerified.TaskRuntime
