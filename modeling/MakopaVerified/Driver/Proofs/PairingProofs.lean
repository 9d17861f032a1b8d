import MakopaVerified.Driver.Pairing
import MakopaVerified.Driver.Proofs.StartProofs
import MakopaVerified.TaskRuntime.Proofs.ContextProofs
import MakopaVerified.TaskRuntime.Proofs.ProgressProofs

/-!
# The driver's checks never fail

Between two stays in user mode every live task has an inactive owner with the generation and the root
of its saved registers, and every dead task has none. `resume_scheduled_task` activates the owner of
the task that the scheduler selected, and the next trap takes it back; a trap writes no more than
results into saved registers, so that the owners still fit. The teardown of an exited task takes its
owner out before its slot is cleared.
-/

namespace MakopaVerified.Driver

open Foundation AddressSpace TaskRuntime Method TaskRuntime.Runtime TaskOwners

variable {σ ε : Type} {B : AddressSpaceBackend σ ε} {kind : KernelRuntimeKind}
  {k k' : KernelRuntime} {d d' : DriverState σ} {task t : UInt64}
  {owner : AddressSpaceOwner} {frame : TrapFrame}

/-! ## Owners and saved registers -/

/-- The owner of a task fits its saved registers: a task whose registers are cleared has no owner, and
any other has one in the given state. -/
inductive Holds (task : UInt64) (c : TaskContext) (state : LifecycleState) :
    Option AddressSpaceOwner → Prop where
  | gone (cleared : c.taskId = 0) : Holds task c state none
  | owner {owner : AddressSpaceOwner}
      (published : AddressSpaceOwner.Published c.generation { owner with state := .inactive })
      (root : owner.root = some c.root) (state_eq : owner.state = state)
      (accepted : c.validate task c.generation c.root taskContextPolicy = .ok ()) :
      Holds task c state (some owner)

/-- Results in the registers do not matter. -/
theorem Holds.results {c c' : TaskContext} {state : LifecycleState}
    {owner : Option AddressSpaceOwner} (h : Holds task c state owner) (hsame : c.SameButOutput c') :
    Holds task c' state owner := by
  have hid : c'.taskId = c.taskId := by rw [hsame]
  have hgeneration : c'.generation = c.generation := by rw [hsame]
  have hroot : c'.root = c.root := by rw [hsame]
  cases h with
  | gone cleared => exact .gone (hid.trans cleared)
  | owner published root state_eq accepted =>
    refine .owner ?_ ?_ state_eq ?_
    · rw [hgeneration]
      exact published
    · rw [hroot]
      exact root
    · rw [hsame.validate, hgeneration, hroot]
      exact accepted

theorem knownTask_ne_zero (hk : KnownTask t) : t ≠ 0 := by
  rcases hk with rfl | rfl <;> decide

section Slots

variable (h : KernelInv kind k) (hk : KnownTask t)

include h hk

theorem slotOk_of_inv : SlotOk k.runtime.queue (k.runtime.slotOf t) ∧ (k.runtime.slotOf t).id = t := by
  obtain ⟨hslots, hid0, hid1⟩ := h.slots
  rcases hk with rfl | rfl
  · exact ⟨hslots.slot0, hid0⟩
  · exact ⟨hslots.slot1, hid1⟩

/-- The saved registers of a dead task are cleared, and those of any other task are its own. -/
theorem input_of_dead (hd : (k.runtime.slotOf t).state = .dead) : (k.runtime.input t).taskId = 0 :=
  ((slotOk_of_inv h hk).1.dead_clear hd).2.1

theorem input_of_alive (ha : (k.runtime.slotOf t).state ≠ .dead) :
    (k.runtime.input t).taskId = t ∧ (k.runtime.input t).generation = (k.runtime.slotOf t).generation ∧
      (k.runtime.input t).root ≠ 0 := by
  obtain ⟨hslot, hid⟩ := slotOk_of_inv h hk
  obtain ⟨-, htask, hgeneration, hroot, -, -⟩ := hslot.owned ha
  exact ⟨htask.trans hid, hgeneration, hroot⟩

theorem Holds.of_alive {state : LifecycleState} {owner : Option AddressSpaceOwner}
    (hholds : Holds t (k.runtime.input t) state owner) (ha : (k.runtime.slotOf t).state ≠ .dead) :
    ∃ o, owner = some o ∧
      AddressSpaceOwner.Published (k.runtime.slotOf t).generation { o with state := .inactive } ∧
      o.root = some (k.runtime.input t).root ∧ o.state = state ∧
      (k.runtime.input t).validate t (k.runtime.slotOf t).generation (k.runtime.input t).root
        taskContextPolicy = .ok () := by
  obtain ⟨hid, hgeneration, -⟩ := input_of_alive h hk ha
  cases hholds with
  | gone cleared => exact absurd (hid.symm.trans cleared) (knownTask_ne_zero hk)
  | @owner o published root state_eq accepted =>
    rw [hgeneration] at published accepted
    exact ⟨o, rfl, published, root, state_eq, accepted⟩

theorem Holds.of_dead {state : LifecycleState} {owner : Option AddressSpaceOwner}
    (hholds : Holds t (k.runtime.input t) state owner) (hd : (k.runtime.slotOf t).state = .dead) :
    owner = none := by
  cases hholds with
  | gone cleared => rfl
  | owner published root state_eq accepted =>
    have hid := (TaskContext.validate_eq_ok.mp accepted).task_eq
    rw [input_of_dead h hk hd] at hid
    exact absurd hid.symm (knownTask_ne_zero hk)

end Slots

/-! ## The table of the owners -/

namespace TaskOwners

variable {owners : TaskOwners} {owner : Option AddressSpaceOwner}

theorem get_put (hk : KnownTask task) : (owners.put task owner).get task = owner := by
  rcases hk with rfl | rfl <;> rfl

theorem get_put_peer (hk : KnownTask task) :
    (owners.put task owner).get (peerOf task) = owners.get (peerOf task) := by
  rcases hk with rfl | rfl <;> rfl

theorem eq_new (h0 : owners.get senderTaskId = none) (h1 : owners.get receiverTaskId = none) :
    owners = new := by
  cases owners
  have h0 : _ = none := h0
  have h1 : _ = none := h1
  subst h0
  subst h1
  rfl

end TaskOwners

/-! ## Between two stays in user mode -/

/-- No task is in user mode: the owners of all live tasks are inactive. -/
structure Waiting (kind : KernelRuntimeKind) (d : DriverState σ) (k : KernelRuntime) : Prop where
  published : d.runtime = some k
  inv : KernelInv kind k
  holds : ∀ t, KnownTask t → Holds t (k.runtime.input t) .inactive (d.owners.get t)

/-- The current task has been resumed and has not been taken back. -/
structure Entered (kind : KernelRuntimeKind) (d : DriverState σ) (k : KernelRuntime) : Prop where
  published : d.runtime = some k
  inv : KernelInv kind k
  running : k.runtime.Running d.currentTask
  holds : Holds d.currentTask (k.runtime.input d.currentTask) .active (d.owners.get d.currentTask)
  peer : Holds (peerOf d.currentTask) (k.runtime.input (peerOf d.currentTask)) .inactive
    (d.owners.get (peerOf d.currentTask))
  context : d.activeContext = ⟨true, d.currentTask, (k.runtime.input d.currentTask).root,
    d.recovery.root, recoveryStackTop, 0⟩

/-- The current task is in user mode, on its own root. -/
structure InUser (kind : KernelRuntimeKind) (d : DriverState σ) (k : KernelRuntime) : Prop
    extends Entered kind d k where
  loaded : d.cr3 = (k.runtime.input d.currentTask).root

theorem orFail_some {α : Type} {a : α} {failure : KernelFailure} {v : Option α} (h : v = some a) :
    (orFail v failure : Method (DriverState σ) KernelFailure α).run d = (.ok a, d) := by
  subst h
  rfl

theorem running_state (hr : k.runtime.Running task) :
    k.state task = .ok .running ∧ (k.runtime.slotOf task).state ≠ .dead := by
  refine ⟨?_, ?_⟩
  · rw [KernelRuntime.state, Runtime.state, slot_of_known hr.known]
    exact congrArg Except.ok hr.state
  · rw [hr.state]
    decide

theorem running_of_state (h : k.state task = .ok .running) : k.runtime.Running task := by
  rw [KernelRuntime.state, Runtime.state] at h
  cases hslot : k.runtime.slot task with
  | error e =>
    rw [hslot] at h
    cases h
  | ok slot =>
    have hk := known_of_slot hslot
    rw [slot_of_known hk] at h
    have hstate : (k.runtime.slotOf task).state = .running := Except.ok.inj h
    rcases hk with rfl | rfl
    · exact .inl ⟨rfl, hstate⟩
    · exact .inr ⟨rfl, hstate⟩

/-- `resume_scheduled_task` of the task that the scheduler selected passes all its checks. -/
theorem Waiting.resumes (h : Waiting kind d k) (hr : k.runtime.Running task) :
    ∃ d', (resumeScheduledTask task).run d = (.ok (), d') ∧ InUser kind d' k := by
  have hk := hr.known
  obtain ⟨hstate, halive⟩ := running_state hr
  obtain ⟨owner, howner, hpublished, hroot, hinactive, hvalid⟩ :=
    Holds.of_alive h.inv hk (h.holds task hk) halive
  have hgeneration : (k.generation task).toOption = some (k.runtime.slotOf task).generation := by
    rw [KernelRuntime.generation, Runtime.generation, slot_of_known hk]
    rfl
  have hcontext : (k.runtime.context task).toOption = some (k.runtime.input task) := by
    rw [context_of_known hk]
    rfl
  have hselected : ¬ (k.runningTask ≠ .ok task ∨ k.state task ≠ .ok .running) := by
    rw [not_or, not_not, not_not]
    exact ⟨h.inv.running_iff.mpr hr, hstate⟩
  have hactivate : AddressSpaceOwner.activate.run owner = (.ok (), { owner with state := .active }) := by
    unfold AddressSpaceOwner.activate
    have hlive : owner.generationLive = true := hpublished.live
    rw [run_bind_ok (run_self _), if_neg (by simp [hinactive, hlive]),
      run_update]
  refine ⟨{ d with
    owners := d.owners.put task (some { owner with state := .active })
    currentTask := task
    activeContext := ⟨true, task, (k.runtime.input task).root, d.recovery.root, recoveryStackTop, 0⟩
    cr3 := (k.runtime.input task).root }, ?_, ?_⟩
  · unfold resumeScheduledTask
    rw [run_bind_ok (run_self _), run_bind_ok (orFail_some h.published),
      if_neg hselected, run_bind_ok (orFail_some hgeneration),
      run_bind_ok (orFail_some howner), run_bind_ok (orFail_some hroot),
      if_neg (by rw [not_or, not_not, not_not]; exact ⟨hinactive, hpublished.generation_eq⟩),
      run_bind_ok (orFail_some hcontext), if_neg (not_not.mpr hvalid), hactivate]
    exact run_update _ _
  · refine ⟨⟨h.published, h.inv, hr, ?_, ?_, rfl⟩, rfl⟩
    · show Holds task _ _ ((d.owners.put task _).get task)
      rw [get_put hk]
      have hsame := (input_of_alive h.inv hk halive).2.1
      refine .owner ?_ hroot rfl ?_
      · rw [hsame]
        exact hpublished
      · rw [hsame]
        exact hvalid
    · show Holds (peerOf task) _ _ ((d.owners.put task _).get (peerOf task))
      rw [get_put_peer hk]
      exact h.holds _ (peerOf_known hk)

/-! ## Traps -/

/-- The check of `makopa_task_trap_dispatch` on its own stack: the trampoline has loaded the root of
the recovery context and left the frame at the top of the recovery stack. -/
theorem boundary_ok (hcr3 : d.cr3 = d.recovery.root) :
    ¬ (d.cr3 ≠ d.recovery.root ∨ recoveryStackTop - trapFrameSize < recoveryStackBase ∨
      ¬ (checkedAdd (recoveryStackTop - trapFrameSize) trapFrameSize).any (· ≤ recoveryStackTop) ∨
      (recoveryStackTop - trapFrameSize) % 8 ≠ 0) := by
  have hframe : ¬ (recoveryStackTop - trapFrameSize < recoveryStackBase ∨
      ¬ (checkedAdd (recoveryStackTop - trapFrameSize) trapFrameSize).any (· ≤ recoveryStackTop) ∨
      (recoveryStackTop - trapFrameSize) % 8 ≠ 0) := by decide
  rintro (hne | hrest)
  · exact hne hcr3
  · exact hframe hrest

theorem run_recover (hactive : owner.state = .active) (hlive : owner.generationLive = true) :
    AddressSpaceOwner.recover.run owner = (.ok (), { owner with state := .inactive }) := by
  unfold AddressSpaceOwner.recover
  rw [run_bind_ok (run_self _), if_neg (by simp [hactive, hlive]), run_update]

/-- The driver when the trap has been answered. -/
def DriverState.answered (d : DriverState σ) (owner : AddressSpaceOwner) (k : KernelRuntime) :
    DriverState σ :=
  { d with
    runtime := some k
    owners := d.owners.put d.currentTask (some { owner with state := .inactive }) }

/-- The trap of the task in user mode up to its outcome: all checks pass, the owner is inactive again,
and what the trap leaves in the saved registers fits the owners. -/
theorem Entered.dispatches (B : AddressSpaceBackend σ ε) (h : Entered kind d k)
    (hcr3 : d.cr3 = d.recovery.root) (hframe : FrameAccepted d frame) :
    ∃ owner outcome k' before, d.owners.get d.currentTask = some owner ∧
      (taskTrapDispatch B (recoveryStackTop - trapFrameSize) frame).run d =
        (followOutcome B outcome).run (d.answered owner k') ∧
      KernelEffect k (.trap d.currentTask frame outcome before k'.runtime) k' ∧
      Waiting kind (d.answered owner k') k' := by
  have hk := h.running.known
  obtain ⟨-, halive⟩ := running_state h.running
  obtain ⟨owner, howner, hpublished, hroot, hactive, -⟩ := Holds.of_alive h.inv hk h.holds halive
  have hne := (input_of_alive h.inv hk halive).2.2
  have hgeneration : owner.generation = (k.runtime.slotOf d.currentTask).generation :=
    hpublished.generation_eq
  obtain ⟨outcome, k', hhandle, heffect⟩ := h.inv.answers frame h.running hne
  have hregisters := TrapRegisters.of_handled h.inv h.running hne hhandle
  -- the captured registers are those of the frame
  have hinput : (k.captured d.currentTask (k.runtime.input d.currentTask).root frame).runtime.input
      d.currentTask = TaskContext.fromTrap frame d.currentTask
        (k.runtime.slotOf d.currentTask).generation (k.runtime.input d.currentTask).root := by
    rw [k.runtime_captured]
    exact input_mapSlot hk
  have haccepted : (TaskContext.fromTrap frame d.currentTask
      (k.runtime.slotOf d.currentTask).generation (k.runtime.input d.currentTask).root).validate
      d.currentTask (k.runtime.slotOf d.currentTask).generation
      (k.runtime.input d.currentTask).root taskContextPolicy = .ok () := by
    obtain ⟨owner', root', howner', hroot', hvalid⟩ := hframe
    rw [howner, Option.some.injEq] at howner'
    subst howner'
    rw [hroot, Option.some.injEq] at hroot'
    subst hroot'
    rw [hgeneration] at hvalid
    exact hvalid
  refine ⟨owner, outcome, k', _, howner, ?_, heffect, rfl, h.inv.effect heffect, ?_⟩
  · have hrunning : ¬ k.runningTask ≠ .ok d.currentTask :=
      not_not.mpr (h.inv.running_iff.mpr h.running)
    have hcontext : ((k.captured d.currentTask (k.runtime.input d.currentTask).root
        frame).runtime.context d.currentTask).toOption = some (TaskContext.fromTrap frame
          d.currentTask (k.runtime.slotOf d.currentTask).generation
          (k.runtime.input d.currentTask).root) := by
      rw [context_of_known hk]
      exact congrArg some hinput
    have hcapture := @KernelRuntime.run_captureTrap k d.currentTask
      (k.runtime.input d.currentTask).root frame h.running
    have hcheck := haccepted
    rw [← hgeneration] at hcapture hcheck hcontext
    have hready : ¬ (d.activeContext.present = false ∨ d.activeContext.task ≠ d.currentTask ∨
        d.activeContext.taskRoot ≠ (k.runtime.input d.currentTask).root ∨
        d.activeContext.recoveryRoot ≠ d.recovery.root ∨
        d.activeContext.recoveryStack ≠ recoveryStackTop ∨ d.activeContext.continuation ≠ 0) := by
      rw [h.context]
      simp
    rw [taskTrapDispatch, run_bind_ok (run_self _), if_neg (boundary_ok hcr3),
      run_bind_ok (orFail_some h.published), if_neg hrunning,
      run_bind_ok (orFail_some howner), if_neg (not_not.mpr hactive),
      run_bind_ok (orFail_some hroot), if_neg hready, run_recover hactive hpublished.live,
      hcapture]
    dsimp only
    rw [run_bind_ok (orFail_some hcontext), if_neg (not_not.mpr hcheck), hhandle]
    rfl
  · intro t ht
    by_cases heq : d.currentTask = t
    · subst heq
      show Holds _ _ _ ((d.owners.put d.currentTask _).get d.currentTask)
      rw [get_put hk]
      have hcaptured : Holds d.currentTask ((k.captured d.currentTask
          (k.runtime.input d.currentTask).root frame).runtime.input d.currentTask) .inactive
          (some { owner with state := .inactive }) := by
        rw [hinput]
        exact .owner hpublished hroot rfl haccepted
      exact hcaptured.results (hregisters.caller.elim TaskContext.SameButResult.output And.left)
    · obtain rfl := eq_peerOf ht hk heq
      show Holds _ _ _ ((d.owners.put d.currentTask _).get (peerOf d.currentTask))
      rw [get_put_peer hk]
      have hsame : (k.captured d.currentTask (k.runtime.input d.currentTask).root
          frame).runtime.input (peerOf d.currentTask) = k.runtime.input (peerOf d.currentTask) := by
        rw [k.runtime_captured]
        exact input_mapSlot_peer hk
      have hpeer := h.peer
      rw [← hsame] at hpeer
      refine hpeer.results ?_
      rcases hregisters.peer with hkept | ⟨hresult, -⟩
      · rw [hkept]
        exact (TaskContext.SameButResult.refl _).output
      · exact hresult.output

/-- The driver leaves user mode with the trap. -/
theorem InUser.traps (B : AddressSpaceBackend σ ε) (h : InUser kind d k)
    (hframe : FrameAccepted d frame) :
    ∃ owner outcome k' before, d.owners.get d.currentTask = some owner ∧
      (takeTrap B frame).run d = (followOutcome B outcome).run (d.trapped.answered owner k') ∧
      KernelEffect k (.trap d.currentTask frame outcome before k'.runtime) k' ∧
      Waiting kind (d.trapped.answered owner k') k' := by
  have htrapped : Entered kind d.trapped k :=
    ⟨h.published, h.inv, h.running, h.holds, h.peer, h.context⟩
  obtain ⟨owner, outcome, k', before, howner, hrun, heffect, hwaiting⟩ :=
    htrapped.dispatches B rfl hframe
  refine ⟨owner, outcome, k', before, howner, ?_, heffect, hwaiting⟩
  rw [takeTrap, run_bind_ok (run_update _ _), hrun]

/-! ## Teardown -/

/-- No task is in user mode while an exited task is torn down. -/
theorem Waiting.left (h : Waiting kind d k) : Waiting kind d.left k := ⟨h.published, h.inv, h.holds⟩

theorem liveSlots_closed (table : CapabilityTable) : table.closed.liveSlots = 0 := by
  refine Vector.countP_eq_zero.mpr ?_
  intro slot hslot
  obtain ⟨slot', -, rfl⟩ := Vector.mem_map.mp hslot
  cases hentry : slot'.entry with
  | none => simp [hentry]
  | some entry =>
    simp only [Option.isSome_some, if_true]
    unfold CapabilitySlot.removeEntry
    split <;> simp

theorem handlesClosed_of_begun {before after : Runtime}
    (he : KernelEffect k (.beginTeardown task before after) k') : handlesClosed k' task = true := by
  have hclosed : ∀ {rt rt' : Runtime}, TeardownBegun rt task rt' → rt' = k'.runtime →
      handlesClosed k' task = true := by
    rintro rt _ hbegun rfl
    unfold handlesClosed
    rw [slot_of_known hbegun.known]
    simp only
    rw [hbegun.tables.1, liveSlots_closed]
    rfl
  cases he with
  | begun exited live effect => exact hclosed effect rfl
  | journaledBegun exited live effect =>
    cases effect with
    | quiet inner idle journal => exact hclosed inner rfl
    | terminal inner live' decision => exact hclosed inner rfl

/-- The first phase closes the handles, and the owners still fit. -/
theorem Waiting.begins (h : Waiting kind d k) (hx : Exited k.runtime task)
    (hlive : (k.runtime.slotOf task).capabilities.state = .live) :
    ∃ k', (KernelRuntime.beginTeardown task).run k = (.ok (), k') ∧ handlesClosed k' task = true ∧
      KernelEffect k (.beginTeardown task k.runtime k'.runtime) k' ∧
      Waiting kind (d.withRuntime k') k' := by
  obtain ⟨k', heffect, hrun⟩ := h.inv.begins hx hlive
  refine ⟨k', hrun, handlesClosed_of_begun heffect, heffect, rfl, h.inv.effect heffect, ?_⟩
  intro t ht
  exact (h.holds t ht).results (h.inv.registers_step (.beginTeardown hrun) ht id)

/-- The second phase clears the slot of the task, whose owner is gone. -/
theorem Waiting.completes (h : Waiting kind d k) (hx : Exited k.runtime task) {next : Option UInt64}
    (hc : TeardownCompleted k.runtime task next k'.runtime) (hinv : KernelInv kind k')
    (backend : σ) :
    Waiting kind { d with
      runtime := some k', owners := d.owners.put task none, backend := backend } k' := by
  refine ⟨rfl, hinv, fun t ht => ?_⟩
  by_cases heq : task = t
  · subst heq
    show Holds _ _ _ ((d.owners.put task none).get task)
    rw [get_put ht]
    have hdead : (k'.runtime.slotOf task).state = .dead := by
      refine (slotOk_of_inv hinv ht).1.dead_of_table ?_
      rw [(hc.tables ht).1]
      rfl
    exact .gone (input_of_dead hinv ht hdead)
  · obtain rfl := eq_peerOf ht hx.known heq
    show Holds _ _ _ ((d.owners.put task none).get (peerOf task))
    rw [get_put_peer hx.known, hc.registers hx.known]
    exact h.holds _ ht

/-- The driver has gone on: a task is in user mode, or both are dead and own nothing. -/
def WentOn (kind : KernelRuntimeKind) (result : DriverEnd) (d : DriverState σ) : Prop :=
  ∃ k, (result = .user ∧ InUser kind d k) ∨
    result = .finished ∧ d.runtime = some k ∧
      (k.runtime.task0.state = .dead ∧ k.runtime.task1.state = .dead) ∧ d.owners = TaskOwners.new

/-- The backend has stopped the teardown of `owner`. -/
def StoppedBy (B : AddressSpaceBackend σ ε) (owner : AddressSpaceOwner) (s : σ) : Prop :=
  ∃ failure backend,
    (teardownChecked B owner).run s = (.error (.failed (.backend failure)), backend) ∧
      Refused B failure.error backend

theorem Waiting.finished (h : Waiting kind d k)
    (hdead : k.runtime.task0.state = .dead ∧ k.runtime.task1.state = .dead) :
    WentOn kind .finished d := by
  refine ⟨k, .inr ⟨rfl, h.published, hdead, eq_new ?_ ?_⟩⟩
  · exact Holds.of_dead h.inv (.inl rfl) (h.holds _ (.inl rfl)) hdead.1
  · exact Holds.of_dead h.inv (.inr rfl) (h.holds _ (.inr rfl)) hdead.2

/-- The teardown of an exited task from the take of its owner on. -/
theorem Waiting.tearsDownOwner (B : AddressSpaceBackend σ ε) (h : Waiting kind d k)
    (hx : Exited k.runtime task)
    (hclosing : (k.runtime.slotOf task).capabilities.state = .closing)
    (howner : d.owners.get task = some owner) :
    (teardownExitedOwner B task).Ends d (WentOn kind) fun e _ =>
      (e = .exitedOwnerTeardown ∧ StoppedBy B owner d.backend) ∨
        e = .teardownStateTransition ∧ task = senderTaskId ∧ k.runtime.task1.state = .staged := by
  have hk := hx.known
  have halive : (k.runtime.slotOf task).state ≠ .dead := by
    rw [hx.state]
    decide
  obtain ⟨owner', howner', hpublished, -, hinactive, -⟩ :=
    Holds.of_alive h.inv hk (h.holds task hk) halive
  obtain rfl : owner = owner' := Option.some.inj (howner.symm.trans howner')
  have hsame : ({ owner with state := .inactive } : AddressSpaceOwner) = owner := by
    rw [← hinactive]
  rw [hsame] at hpublished
  have hteardown := teardownChecked_any (B := B) hpublished d.backend
  refine .bind (.self (.bind (.of_ok (orFail_some howner) (.bind (.update ?_)))))
  rw [if_neg (not_not.mpr hinactive)]
  rcases hrun : (teardownChecked B owner).run d.backend with ⟨e | dead, backend⟩
  · obtain ⟨failure, rfl, hrefused⟩ := hteardown.error hrun
    exact .fail (.inl ⟨rfl, failure, backend, hrun, hrefused⟩)
  obtain ⟨hdead, hempty⟩ := hteardown.ok hrun
  refine .bind (.update ?_)
  rw [if_neg (by rw [hdead, hempty]; simp [FrameLedger.new])]
  refine .bind (.of_ok (orFail_some h.published) ?_)
  by_cases hstaged : task = senderTaskId ∧ k.runtime.task1.state = .staged
  · obtain ⟨rfl, hstaged⟩ := hstaged
    rw [h.inv.refuses hx hclosing hstaged]
    exact .fail (.inr ⟨rfl, rfl, hstaged⟩)
  · obtain ⟨next, k', hc, hcomplete⟩ := h.inv.completes hx hclosing hstaged
    have hinv := h.inv.effect (h.inv.step (.completeTeardown hcomplete))
    have hwaiting := h.completes hx hc hinv backend
    rw [hcomplete]
    refine .bind (.update ?_)
    obtain ⟨halive', hdead'⟩ := hc.outcome hk
    by_cases hpeer : (k.runtime.slotOf (peerOf task)).state = .dead
    · obtain ⟨rfl, hall⟩ := hdead' hpeer
      exact .pure (hwaiting.finished hall)
    · obtain ⟨rfl, hrunning⟩ := halive' hpeer
      obtain ⟨d', hresume, hin⟩ := hwaiting.resumes hrunning
      exact .bind (.of_ok hresume (.pure ⟨k', .inl ⟨rfl, hin⟩⟩))

/-- The teardown of an exited task. -/
theorem Waiting.tearsDown (B : AddressSpaceBackend σ ε) (h : Waiting kind d k)
    (hx : Exited k.runtime task) (hlive : (k.runtime.slotOf task).capabilities.state = .live)
    (howner : d.owners.get task = some owner) :
    (teardownExitedTask B task).Ends d (WentOn kind) fun e _ =>
      (e = .exitedOwnerTeardown ∧ StoppedBy B owner d.backend) ∨
        e = .teardownStateTransition ∧ task = senderTaskId ∧ k.runtime.task1.state = .staged := by
  obtain ⟨k₁, hbegin, hclosed, hbegun, h₁⟩ := h.begins hx hlive
  obtain ⟨hx₁, hclosing, hpeer⟩ := hbegun.begun_slots
  refine .bind (.self (.bind (.of_ok (orFail_some h.published) ?_)))
  rw [hbegin]
  simp only [hclosed, Bool.true_eq_false, if_false]
  refine .bind (.update ?_)
  refine (h₁.left.tearsDownOwner B hx₁ hclosing howner).mono (fun _ _ hwent => hwent) ?_
  rintro e d' (hstopped | ⟨rfl, rfl, hstaged⟩)
  · exact .inl hstopped
  · exact .inr ⟨rfl, rfl, (hpeer .staged (.inr rfl)).mp hstaged⟩

/-! ## One trap -/

/-- An exit leaves the state of the other task alone. -/
theorem staged_of_exit {before after : Runtime}
    (he : KernelEffect k (.trap senderTaskId frame (.exit t) before after) k')
    (hstaged : k'.runtime.task1.state = .staged) : k.runtime.task1.state = .staged := by
  cases he with
  | trap running root_ne effect =>
    obtain ⟨-, rfl⟩ := effect.exit_eq
    exact hstaged
  | @journaledTrap jr jr' _ _ _ _ running root_ne effect =>
    obtain ⟨-, heq⟩ := (effect.inner_of_ne nofun).exit_eq
    have hstaged : jr'.runtime.task1.state = .staged := hstaged
    rw [heq] at hstaged
    exact hstaged

/-- The trap of the task in user mode ends in user mode again, with both tasks dead, or in one of two
failures. -/
theorem InUser.takeTrap_ends (B : AddressSpaceBackend σ ε) (h : InUser kind d k)
    (hframe : FrameAccepted d frame) :
    (takeTrap B frame).Ends d (WentOn kind) fun e d' => TrapEnd B d k (.error e) d' := by
  obtain ⟨owner, outcome, k', before, howner, hrun, heffect, hwaiting⟩ := h.traps B hframe
  have hends : (followOutcome B outcome).Ends (d.trapped.answered owner k') (WentOn kind)
      fun e d' => TrapEnd B d k (.error e) d' := by
    have hselected : ∀ {next : UInt64}, outcome.selected = some next →
        (update DriverState.left >>= fun _ => resumeScheduledTask next >>= fun _ =>
          pure DriverEnd.user).Ends (d.trapped.answered owner k') (WentOn kind)
          fun e d' => TrapEnd B d k (.error e) d' := by
      intro next hnext
      obtain ⟨d', hresume, hin⟩ := hwaiting.left.resumes (heffect.selects hnext)
      exact .bind (.update (.bind (.of_ok hresume (.pure ⟨k', .inl ⟨rfl, hin⟩⟩))))
    cases outcome with
    | resume next => exact hselected rfl
    | «switch» next => exact hselected rfl
    | «exit» exited =>
      obtain ⟨rfl, hx, hlive⟩ := h.inv.exited heffect
      have htaken : (d.trapped.answered owner k').owners.get d.currentTask =
          some { owner with state := .inactive } := get_put h.running.known
      refine (hwaiting.tearsDown B hx hlive htaken).mono (fun _ _ hwent => hwent) ?_
      rintro e d' (⟨rfl, failure, backend, hfailed, hrefused⟩ | ⟨rfl, hsupervisor, hstaged⟩)
      · exact .stopped howner hfailed hrefused
      · refine .unlaunched hsupervisor ?_
        rw [hsupervisor] at heffect
        exact staged_of_exit heffect hstaged
  exact ⟨fun hr => hends.ok (hrun.symm.trans hr), fun hr => hends.error (hrun.symm.trans hr)⟩

/-! ## The start -/

/-- The failures of `construct_address_space_pair` come before user mode. -/
theorem pairFailure_beforeUser {e : Stop (PairBuildFailure ε)} (he : Failed e) :
    (pairFailure kind e).BeforeUser kind := by
  obtain ⟨failure, rfl⟩ := he
  cases failure with
  | first failure =>
    show KernelFailure.BeforeUser kind (if _ then _ else _)
    split <;> simp [KernelFailure.BeforeUser]
  | second second firstTeardown =>
    show KernelFailure.BeforeUser kind (if _ then _ else _)
    split <;> simp [KernelFailure.BeforeUser]

theorem tornDown_ends {generation : UInt64} (howner : owner.Published generation)
    (d : DriverState σ) :
    (tornDown B owner).Ends d (fun _ _ => True) fun _ _ => False := by
  refine .bind (.onPart (.attempt ((teardownChecked_any howner d.backend).mono ?_ ?_)))
  · exact fun _ _ _ => .pure trivial
  · rintro _ _ ⟨failure, rfl, -⟩
    exact .pure trivial

/-- A pair that is withdrawn. -/
theorem withdrawPair_ends {α : Type} {g0 g1 : UInt64} {pair : AddressSpacePair}
    {Q : α → DriverState σ → Prop} (hfirst : pair.first.Published g0)
    (hsecond : pair.second.Published g1) (d : DriverState σ) :
    (withdrawPair B kind pair : Method _ _ α).Ends d Q fun e _ => e.BeforeUser kind := by
  refine .bind ((tornDown_ends hsecond d).mono ?_ fun _ _ h => h.elim)
  intro secondOk d₁ _
  refine .bind ((tornDown_ends hfirst d₁).mono ?_ fun _ _ h => h.elim)
  intro firstOk d₂ _
  refine .ite (fun _ => .fail ?_) fun _ => .fail ?_
  · simp [KernelFailure.BeforeUser]
  · simp [KernelFailure.BeforeUser]

/-- The runtime and the owners of a pair, before the first task enters user mode. -/
theorem waiting_of_start {pair : AddressSpacePair} {r0 r1 : UInt64} {next : Option UInt64}
    {k₀ : KernelRuntime} {rt : Runtime} (hfirst : pair.first.Published (generations kind).1)
    (hsecond : pair.second.Published (generations kind).2) (hroot0 : pair.first.root = some r0)
    (hroot1 : pair.second.root = some r1) (hvalid : contextsValid kind r0 r1 = true)
    (hnew : initialRuntime kind r0 r1 = .ok k₀)
    (hdispatch : KernelRuntime.dispatchNext.run k₀ = (.ok next, k))
    (hcontexts : k.runtime = Runtime.withContexts
      (initialContext senderTaskId (generations kind).1 r0)
      (initialContext receiverTaskId (generations kind).2 r1) rt) :
    Waiting kind { d with owners := ⟨some pair.first, some pair.second⟩, runtime := some k } k := by
  unfold contextsValid at hvalid
  rw [Bool.and_eq_true, decide_eq_true_eq, decide_eq_true_eq] at hvalid
  refine ⟨rfl, .booted ⟨k₀, next, KernelRuntime.publish_published hnew, hdispatch⟩, ?_⟩
  have hinactive : ∀ {owner : AddressSpaceOwner} {g : UInt64}, owner.Published g →
      AddressSpaceOwner.Published g { owner with state := .inactive } := by
    intro owner g h
    rw [← h.inactive]
    exact h
  rintro t (rfl | rfl)
  · rw [hcontexts]
    exact .owner (hinactive hfirst) hroot0 hfirst.inactive hvalid.1
  · rw [hcontexts]
    exact .owner (hinactive hsecond) hroot1 hsecond.inactive hvalid.2

/-- A scheduler enters user mode, or fails before any of the checks that go with a task. -/
theorem runScheduler_ends (B : AddressSpaceBackend σ ε) (kind : KernelRuntimeKind)
    (d : DriverState σ) :
    (runScheduler B kind).Ends d (fun _ d' => ∃ k, InUser kind d' k) fun e _ =>
      e.BeforeUser kind := by
  obtain ⟨hg0, hg1⟩ := generations_ne kind
  refine .bind (.self (.ite (fun _ => .fail ?_) fun _ => .ite (fun _ => .fail ?_) fun _ => ?_))
  · simp [KernelFailure.BeforeUser]
  · simp [KernelFailure.BeforeUser]
  refine .bind (.onPart ((constructAddressSpacePair_any hg0 hg1 d.backend).mono ?_ ?_))
  · rintro pair backend ⟨hfirst, hsecond⟩
    obtain ⟨r0, hroot0, hmem0⟩ := hfirst.root
    obtain ⟨r1, hroot1, hmem1⟩ := hsecond.root
    refine .bind (.of_ok (orFail_some hroot0) (.bind (.of_ok (orFail_some hroot1) ?_)))
    cases hvalid : contextsValid kind r0 r1 with
    | false => exact withdrawPair_ends hfirst hsecond _
    | true =>
      have hne := (contextsValid_iff kind (hfirst.aligned _ hmem0)
        (hsecond.aligned _ hmem1)).mp hvalid
      obtain ⟨k₀, next, k, rt, hnew, hdispatch, hnext, hrunning, hcontexts⟩ :=
        initialRuntime_starts kind hne.1 hne.2
      have hfirstDispatch : firstDispatch kind k₀ = .ok (next, k) := by
        unfold firstDispatch
        rw [hdispatch]
        exact if_pos hnext
      rw [hnew]
      dsimp only
      rw [hfirstDispatch]
      refine .bind (.update ?_)
      obtain ⟨d', hresume, hin⟩ := (waiting_of_start hfirst hsecond hroot0 hroot1 hvalid hnew
        hdispatch hcontexts).resumes hrunning
      exact .of_ok hresume ⟨k, hin⟩
  · exact fun e _ he => pairFailure_beforeUser he

/-! ## The result -/

theorem InUser.paired (h : InUser kind d k) : Paired d k := by
  have hk := h.running.known
  obtain ⟨hstate, halive⟩ := running_state h.running
  obtain ⟨owner, howner, hpublished, hroot, hactive, -⟩ := Holds.of_alive h.inv hk h.holds halive
  have hpeer := peerOf_known hk
  -- an owner that fits agrees with the slot
  have hagrees : ∀ {t state owner}, KnownTask t →
      Holds t (k.runtime.input t) state (some owner) →
      owner.generation = (k.runtime.slotOf t).generation ∧
        owner.root = some (k.runtime.slotOf t).context.root := by
    intro t state owner ht hholds
    have halive : (k.runtime.slotOf t).state ≠ .dead := by
      intro hdead
      exact Option.some_ne_none _ (Holds.of_dead h.inv ht hholds hdead)
    obtain ⟨o, ho, hpublished, hroot, -⟩ := Holds.of_alive h.inv ht hholds halive
    obtain rfl := Option.some.inj ho
    exact ⟨hpublished.generation_eq, hroot⟩
  refine ⟨h.published, ?_, ⟨owner, _, howner, hactive, hroot, h.context, h.loaded⟩, ?_, ?_, ?_⟩
  · intro t
    constructor
    · intro hrunning
      have hboth := running_of_state hrunning
      have hfirst := h.inv.running_iff.mpr hboth
      have hsecond := h.inv.running_iff.mpr h.running
      rw [hfirst, Except.ok.injEq] at hsecond
      exact hsecond
    · rintro rfl
      exact hstate
  · intro t ht hne ha
    obtain rfl := eq_peerOf ht hk fun h => hne h.symm
    obtain ⟨o, ho, -, -, hinactive, -⟩ := Holds.of_alive h.inv hpeer h.peer ha
    exact ⟨o, ho, hinactive⟩
  · intro t ht hdead
    by_cases heq : d.currentTask = t
    · subst heq
      exact absurd hdead halive
    · obtain rfl := eq_peerOf ht hk heq
      exact Holds.of_dead h.inv hpeer h.peer hdead
  · intro t o ht ho
    by_cases heq : d.currentTask = t
    · subst heq
      exact hagrees ht (ho ▸ h.holds)
    · obtain rfl := eq_peerOf ht hk heq
      exact hagrees ht (ho ▸ h.peer)

theorem InUser.run {history : List TrapFrame} (h : Run (driverSystem B kind) history d) :
    ∃ k, InUser kind d k := by
  refine Run.state_invariant (P := fun d => ∃ k, InUser kind d k) ?_ ?_ h
  · rintro d ⟨d₀, hrun⟩
    exact (runScheduler_ends B kind d₀).ok hrun
  · rintro d frame d' ⟨k, hin⟩ ⟨hframe, hrun⟩
    obtain ⟨k', hwent⟩ := (hin.takeTrap_ends B hframe).ok hrun
    rcases hwent with ⟨-, hin'⟩ | ⟨hbad, -⟩
    · exact ⟨k', hin'⟩
    · cases hbad

/-- Scheduler state and ownership of address spaces stay paired, for every profile, every backend of
the address spaces and every sequence of traps with acceptable registers. At every entry to user mode
exactly one task runs and has the active owner, whose root is loaded; the owner of any other live task
is inactive, a dead task has none, and the owners agree with the slots of the runtime.
So no check of the driver fails: before user mode a scheduler fails for the reasons of `BeforeUser`
only, and a trap ends in user mode, with both tasks dead, or because the backend has stopped a
teardown; a supervisor that exits without having launched the workload is the remaining case. -/
theorem scheduler_and_owners_paired (B : AddressSpaceBackend σ ε) (kind : KernelRuntimeKind) :
    (∀ d₀ failure d, (runScheduler B kind).run d₀ = (.error failure, d) →
      failure.BeforeUser kind) ∧
    ∀ history d, Run (driverSystem B kind) history d →
      ∃ k, Paired d k ∧ ∀ frame, FrameAccepted d frame →
        TrapEnd B d k ((takeTrap B frame).run d).1 ((takeTrap B frame).run d).2 := by
  refine ⟨fun d₀ failure d hrun => (runScheduler_ends B kind d₀).error hrun, ?_⟩
  intro history d hrun
  obtain ⟨k, hin⟩ := InUser.run hrun
  refine ⟨k, hin.paired, fun frame hframe => ?_⟩
  have hends := hin.takeTrap_ends B hframe
  rcases htrap : (takeTrap B frame).run d with ⟨e | result, d'⟩
  · exact hends.error htrap
  · obtain ⟨k', ⟨rfl, -⟩ | ⟨rfl, hpublished, hdead, hempty⟩⟩ := hends.ok htrap
    · exact .user
    · exact .finished hpublished hdead hempty

/-- A driver before any scheduler has run. -/
def freshDriver : DriverState UInt64 where
  recovery := ⟨0x1000, 0, 0, true⟩
  cr3 := 0x1000
  taskOwner := none
  runtime := none
  owners := TaskOwners.new
  currentTask := 0
  activeContext := ActiveContext.new
  backend := 0x2000

/-- The driver when the first task is in user mode. -/
def startedDriver : DriverState UInt64 :=
  ((runScheduler countingBackend .cooperative).run freshDriver).2

theorem startedDriver_run : Run (driverSystem countingBackend .cooperative) [] startedDriver :=
  .start ⟨freshDriver, run_eq_of_result (by decide +kernel)⟩

/-- A trap from the first instruction of a task, for the operation `rax`. -/
def userFrame (rax : UInt64) : TrapFrame :=
  { TrapFrame.request rax 0 0 0 with
    rip := userText, cs := userCodeSelector, rflags := 2, rsp := userStackTop,
    ss := userDataSelector }

theorem frameAccepted_of_any
    (h : ((d.owners.get d.currentTask).any fun owner => owner.root.any fun root =>
      (TaskContext.fromTrap frame d.currentTask owner.generation root).validate d.currentTask
        owner.generation root taskContextPolicy = .ok ()) = true) : FrameAccepted d frame := by
  obtain ⟨owner, howner, hroots⟩ := (Option.any_eq_true _ _).mp h
  obtain ⟨root, hroot, hvalid⟩ := (Option.any_eq_true _ _).mp hroots
  exact ⟨owner, root, howner, hroot, of_decide_eq_true hvalid⟩

/-- The receiver yields to the sender, which exits. -/
theorem paired_after_yield :
    ∃ d k, Run (driverSystem countingBackend .cooperative) [userFrame 0] d ∧
      d.currentTask = senderTaskId ∧ Paired d k ∧
      TrapEnd countingBackend d k ((takeTrap countingBackend (userFrame 3)).run d).1
        ((takeTrap countingBackend (userFrame 3)).run d).2 := by
  have hyield := run_eq_of_result (m := takeTrap countingBackend (userFrame 0))
    (s := startedDriver) (r := .ok .user) (by decide +kernel)
  have hrun := startedDriver_run.step ⟨frameAccepted_of_any (by decide +kernel), hyield⟩
  obtain ⟨k, hpaired, hends⟩ :=
    (scheduler_and_owners_paired countingBackend .cooperative).2 _ _ hrun
  exact ⟨_, k, hrun, by decide +kernel, hpaired,
    hends (userFrame 3) (frameAccepted_of_any (by decide +kernel))⟩

end MakopaVerified.Driver
