import MakopaVerified.TaskRuntime.Observations
import MakopaVerified.TaskRuntime.Proofs.BootProofs

/-!
# The kernel's calls under the invariants

`KernelInv` is the invariant of each profile. Under it every call that the kernel makes is one of
the cases of `KernelEffect`, which keep the invariant. So all runs keep it, and what a run can do
is read off the cases.
-/

namespace MakopaVerified.TaskRuntime

open Foundation TaskRuntime.Runtime KernelRuntime JournaledRuntime

/-! ## Captured registers -/

/-- The runtime once the registers of a trap have been captured. -/
def Runtime.captured (task root : UInt64) (frame : TrapFrame) (rt : Runtime) : Runtime :=
  mapSlot task (TaskSlot.captured task root (rt.slotOf task).generation frame) rt

theorem ContextOk.captured {s : TaskSlot} {task root : UInt64} (frame : TrapFrame)
    (hid : s.id = task) (hs : s.state = .running) (hroot : root ≠ 0) :
    ContextOk s (TaskContext.fromTrap frame task s.generation root) := by
  refine ⟨fun hd => ?_, fun _ => ⟨hid.symm, rfl, hroot⟩⟩
  rw [hs] at hd
  cases hd

section Captured

variable {rt : Runtime} {task root : UInt64} {frame : TrapFrame}

theorem Runtime.Running.captured (hr : rt.Running task) :
    (rt.captured task root frame).Running task := by
  rcases hr with ⟨rfl, hr⟩ | ⟨rfl, hr⟩
  · exact .inl ⟨rfl, hr⟩
  · exact .inr ⟨rfl, hr⟩

theorem Runtime.captured_operation (hk : KnownTask task) :
    (rt.captured task root frame).operation task = frame.operation := by
  rcases hk with rfl | rfl <;> rfl

theorem CoopInv.captured (h : CoopInv rt) (hr : rt.Running task) (hroot : root ≠ 0) :
    CoopInv (rt.captured task root frame) := by
  rcases hr with ⟨rfl, hr⟩ | ⟨rfl, hr⟩
  · exact h.withContexts (.captured frame h.id0 hr hroot) h.valid.slot1.contextOk
  · exact h.withContexts h.valid.slot0.contextOk (.captured frame h.id1 hr hroot)

theorem SupInv.captured (h : SupInv rt) (hr : rt.Running task) (hroot : root ≠ 0) :
    SupInv (rt.captured task root frame) := by
  have hcore : SupCore (rt.captured task root frame) := by
    rcases hr with ⟨rfl, hr⟩ | ⟨rfl, hr⟩
    · exact h.toSupCore.withContexts (.captured frame h.id0 hr hroot) h.valid.slot1.contextOk
    · exact h.toSupCore.withContexts h.valid.slot0.contextOk (.captured frame h.id1 hr hroot)
  refine { hcore with approved_epoch := ?_ }
  rw [Runtime.captured, mapSlot_broker]
  exact h.approved_epoch

theorem JInv.captured {jr : JournaledRuntime} (h : JInv jr) (hr : jr.runtime.Running task)
    (hroot : root ≠ 0) : JInv { jr with runtime := jr.runtime.captured task root frame } :=
  h.unrecorded hr (h.sup.captured hr hroot) (.mapSlot hr.known fun _ => rfl)
    (mapSlot_broker _ _ _)

end Captured

/-! ## Traps and teardowns of each profile -/

namespace CoopInv

variable {rt : Runtime} {task : UInt64}

theorem validate (h : CoopInv rt) : rt.validate = .ok () := validate_eq_ok.mpr h.valid

theorem answers (h : CoopInv rt) (hr : rt.Running task) :
    ∃ outcome rt', TrapEffect rt task outcome rt' ∧
      (Runtime.handleTrap task).run rt = (.ok outcome, rt') := by
  obtain ⟨outcome, rt', he, hrun⟩ := cooperative_answers h hr
  exact ⟨outcome, rt', he, hrun (h.effect hr he).validate⟩

theorem begins (h : CoopInv rt) (hx : Exited rt task)
    (hlive : (rt.slotOf task).capabilities.state = .live) :
    ∃ rt', TeardownBegun rt task rt' ∧ (Runtime.beginTeardown task).run rt = (.ok (), rt') := by
  obtain ⟨rt', hb, hrun⟩ :=
    beginTeardown_cooperative h.profile h.valid.toSlotsOk h.id0 h.id1 hx hlive
  exact ⟨rt', hb, hrun (h.begun hx hlive hb).validate⟩

theorem completes (h : CoopInv rt) (hx : Exited rt task)
    (hclosing : (rt.slotOf task).capabilities.state = .closing) :
    ∃ next rt', TeardownCompleted rt task next rt' ∧
      (Runtime.completeTeardown task).run rt = (.ok next, rt') := by
  have hok : (rt.slotOf task).capabilities.TableOk := by
    rcases hx.known with rfl | rfl
    · exact h.valid.slot0.tableOk (by rw [← slotOf_sender, hclosing]; decide)
    · exact h.valid.slot1.tableOk (by rw [← slotOf_receiver, hclosing]; decide)
  obtain ⟨next, rt', hc, hrun⟩ := completeTeardown_completes hx hclosing hok
    (validate_eq_ok.mpr (h.buried_valid hx hclosing)) (h.peer_ready_or_dead hx hclosing)
  exact ⟨next, rt', hc, hrun (h.completed hx hclosing hc).validate⟩

theorem completeTeardown_effect (h : CoopInv rt) {next : Option UInt64} {rt' : Runtime}
    (hrun : (Runtime.completeTeardown task).run rt = (.ok next, rt')) :
    Exited rt task ∧ (rt.slotOf task).capabilities.state = .closing ∧
      TeardownCompleted rt task next rt' := by
  obtain ⟨hx, hclosing⟩ := completeTeardown_ok hrun
  obtain ⟨next', rt'', hc, hrun'⟩ := h.completes hx hclosing
  obtain ⟨rfl, rfl⟩ := Method.run_ok_inj hrun' hrun
  exact ⟨hx, hclosing, hc⟩

end CoopInv

namespace SupInv

variable {rt : Runtime} {task : UInt64}

theorem validate (h : SupInv rt) : rt.validate = .ok () := validate_eq_ok.mpr h.valid

theorem answers (h : SupInv rt) (hr : rt.Running task) :
    ∃ outcome rt', TrapEffect rt task outcome rt' ∧
      (Runtime.handleTrap task).run rt = (.ok outcome, rt') := by
  obtain ⟨outcome, rt', he, hrun⟩ := supervised_answers h hr
  exact ⟨outcome, rt', he, hrun (h.effect hr he).validate⟩

theorem begins (h : SupInv rt) (hx : Exited rt task)
    (hlive : (rt.slotOf task).capabilities.state = .live) :
    ∃ rt', TeardownBegun rt task rt' ∧ (Runtime.beginTeardown task).run rt = (.ok (), rt') := by
  obtain ⟨rt', hb, hrun⟩ := beginTeardown_supervised h.profile h.valid.toSlotsOk h.id0 h.id1
    h.waiting hx hlive
  exact ⟨rt', hb, hrun (h.toSupCore.begun hx hlive hb).validate⟩

theorem tableOk (h : SupInv rt) (hk : KnownTask task)
    (hclosing : (rt.slotOf task).capabilities.state = .closing) :
    (rt.slotOf task).capabilities.TableOk := by
  rcases hk with rfl | rfl
  · exact h.valid.slot0.tableOk (by rw [← slotOf_sender, hclosing]; decide)
  · exact h.valid.slot1.tableOk (by rw [← slotOf_receiver, hclosing]; decide)

theorem completes (h : SupInv rt) (hx : Exited rt task)
    (hclosing : (rt.slotOf task).capabilities.state = .closing)
    (hstarted : ¬ (task = senderTaskId ∧ rt.task1.state = .staged)) :
    ∃ next rt', TeardownCompleted rt task next rt' ∧
      (Runtime.completeTeardown task).run rt = (.ok next, rt') := by
  have hpeer : _ ∨ _ := (h.toSupCore.peer_states hx hclosing).resolve_right
    fun hstuck => hstarted ⟨hstuck.1, hstuck.2.1⟩
  obtain ⟨next, rt', hc, hrun⟩ := completeTeardown_completes hx hclosing
    (h.tableOk hx.known hclosing) (validate_eq_ok.mpr (h.toSupCore.buried_valid hx hclosing)) hpeer
  exact ⟨next, rt', hc, hrun (h.toSupCore.completed hx hclosing hc).validate⟩

/-- A supervisor that exits before it has launched the workload cannot be buried. -/
theorem refuses (h : SupInv rt) (hx : Exited rt senderTaskId)
    (hclosing : rt.task0.capabilities.state = .closing) (hstaged : rt.task1.state = .staged) :
    (Runtime.completeTeardown senderTaskId).run rt = (.error .noRunnableTask, rt) := by
  have hq : rt.queue = RunQueue.ofList [] := by
    refine h.valid.toSlotsOk.queue_nil h.id0 h.id1 ?_ (by rw [hstaged]; decide)
    have hs : rt.task0.state = .exited := hx.state
    rw [hs]
    decide
  have hpeer : (rt.slotOf (peerOf senderTaskId)).state = .staged := hstaged
  exact completeTeardown_refuses hx hclosing (h.tableOk hx.known hclosing)
    (validate_eq_ok.mpr (h.toSupCore.buried_valid hx hclosing)) (by rw [hpeer]; decide)
    (by rw [hpeer]; decide) hq

/-- A second phase that succeeds is one of the two cases. -/
theorem completeTeardown_effect (h : SupInv rt) {next : Option UInt64} {rt' : Runtime}
    (hrun : (Runtime.completeTeardown task).run rt = (.ok next, rt')) :
    Exited rt task ∧ (rt.slotOf task).capabilities.state = .closing ∧
      TeardownCompleted rt task next rt' := by
  obtain ⟨hx, hclosing⟩ := completeTeardown_ok hrun
  have hstarted : ¬ (task = senderTaskId ∧ rt.task1.state = .staged) := by
    rintro ⟨rfl, hstaged⟩
    rw [h.refuses hx hclosing hstaged] at hrun
    cases hrun
  obtain ⟨next', rt'', hc, hrun'⟩ := h.completes hx hclosing hstarted
  obtain ⟨rfl, rfl⟩ := Method.run_ok_inj hrun' hrun
  exact ⟨hx, hclosing, hc⟩

end SupInv

namespace JInv

variable {jr : JournaledRuntime} {task : UInt64}

theorem completes (h : JInv jr) (hx : Exited jr.runtime task)
    (hclosing : (jr.runtime.slotOf task).capabilities.state = .closing)
    (hstarted : ¬ (task = senderTaskId ∧ jr.runtime.task1.state = .staged)) :
    ∃ next rt', TeardownCompleted jr.runtime task next rt' ∧
      (JournaledRuntime.completeTeardown task).run jr = (.ok next, { jr with runtime := rt' }) := by
  obtain ⟨next, rt', hc, hrun⟩ := h.sup.completes hx hclosing hstarted
  exact ⟨next, rt', hc,
    run_completeTeardown hrun (h.completed hx hclosing hc).validate⟩

end JInv

/-! ## One call of the kernel -/

/-- The invariant of each profile. -/
inductive KernelInv : KernelRuntimeKind → KernelRuntime → Prop where
  | cooperative {rt : Runtime} (inv : CoopInv rt) : KernelInv .cooperative (.base rt)
  | supervised {rt : Runtime} (inv : SupInv rt) : KernelInv .supervised (.base rt)
  | journaled {jr : JournaledRuntime} (inv : JInv jr) : KernelInv .journaled (.journaled jr)

/-- Everything that a successful call of the kernel can do. -/
inductive KernelEffect : KernelRuntime → KernelEvent → KernelRuntime → Prop where
  | trap {rt rt' : Runtime} {task root : UInt64} {frame : TrapFrame} {outcome : TrapOutcome}
      (running : rt.Running task) (root_ne : root ≠ 0)
      (effect : TrapEffect (rt.captured task root frame) task outcome rt') :
      KernelEffect (.base rt) (.trap task frame outcome (rt.captured task root frame) rt')
        (.base rt')
  | begun {rt rt' : Runtime} {task : UInt64} (exited : Exited rt task)
      (live : (rt.slotOf task).capabilities.state = .live) (effect : TeardownBegun rt task rt') :
      KernelEffect (.base rt) (.beginTeardown task rt rt') (.base rt')
  | completed {rt rt' : Runtime} {task : UInt64} {next : Option UInt64} (exited : Exited rt task)
      (closing : (rt.slotOf task).capabilities.state = .closing)
      (effect : TeardownCompleted rt task next rt') :
      KernelEffect (.base rt) (.completeTeardown task next rt rt') (.base rt')
  | journaledTrap {jr jr' : JournaledRuntime} {task root : UInt64} {frame : TrapFrame}
      {outcome : TrapOutcome} (running : jr.runtime.Running task) (root_ne : root ≠ 0)
      (effect : JournaledEffect { jr with runtime := jr.runtime.captured task root frame } task
        outcome jr') :
      KernelEffect (.journaled jr)
        (.trap task frame outcome (jr.runtime.captured task root frame) jr'.runtime)
        (.journaled jr')
  | journaledBegun {jr jr' : JournaledRuntime} {task : UInt64} (exited : Exited jr.runtime task)
      (live : (jr.runtime.slotOf task).capabilities.state = .live)
      (effect : JournaledBegun jr task jr') :
      KernelEffect (.journaled jr) (.beginTeardown task jr.runtime jr'.runtime) (.journaled jr')
  | journaledCompleted {jr : JournaledRuntime} {rt' : Runtime} {task : UInt64}
      {next : Option UInt64} (exited : Exited jr.runtime task)
      (closing : (jr.runtime.slotOf task).capabilities.state = .closing)
      (effect : TeardownCompleted jr.runtime task next rt') :
      KernelEffect (.journaled jr) (.completeTeardown task next jr.runtime rt')
        (.journaled { jr with runtime := rt' })
  | reclaimed {jr : JournaledRuntime} (dead0 : jr.runtime.task0.state = .dead)
      (dead1 : jr.runtime.task1.state = .dead) :
      KernelEffect (.journaled jr) .finishReclamation
        (.journaled { jr with journal := EffectJournal.dead })

namespace KernelRuntime

variable {α : Type} {onBase : Method Runtime RuntimeError α}
  {onJournaled : Method JournaledRuntime RuntimeError α} {result : Except RuntimeError α}
  {rt : Runtime} {jr : JournaledRuntime} {k' : KernelRuntime}

theorem run_call_base {rt' : Runtime} (h : onBase.run rt = (result, rt')) :
    (call onBase onJournaled).run (.base rt) = (result, .base rt') := by
  show ((onBase.run rt).1, base (onBase.run rt).2) = _
  rw [h]

theorem run_call_journaled {jr' : JournaledRuntime} (h : onJournaled.run jr = (result, jr')) :
    (call onBase onJournaled).run (.journaled jr) = (result, .journaled jr') := by
  show ((onJournaled.run jr).1, journaled (onJournaled.run jr).2) = _
  rw [h]

theorem call_base_eq (h : (call onBase onJournaled).run (.base rt) = (result, k')) :
    ∃ rt', onBase.run rt = (result, rt') ∧ k' = .base rt' := by
  obtain ⟨rfl, rfl⟩ := Prod.mk.inj h
  exact ⟨_, rfl, rfl⟩

theorem call_journaled_eq (h : (call onBase onJournaled).run (.journaled jr) = (result, k')) :
    ∃ jr', onJournaled.run jr = (result, jr') ∧ k' = .journaled jr' := by
  obtain ⟨rfl, rfl⟩ := Prod.mk.inj h
  exact ⟨_, rfl, rfl⟩

/-- The runtime once the registers of a trap have been captured. -/
def captured (task root : UInt64) (frame : TrapFrame) : KernelRuntime → KernelRuntime
  | base rt => base (rt.captured task root frame)
  | journaled jr => journaled { jr with runtime := jr.runtime.captured task root frame }

theorem runtime_captured {task root : UInt64} {frame : TrapFrame} (k : KernelRuntime) :
    (k.captured task root frame).runtime = k.runtime.captured task root frame := by
  cases k <;> rfl

/-- The running task is captured with its own generation. -/
theorem run_captureTrap {k : KernelRuntime} {task root : UInt64} {frame : TrapFrame}
    (hr : k.runtime.Running task) :
    (captureTrap task frame root (k.runtime.slotOf task).generation).run k =
      (.ok (), k.captured task root frame) := by
  cases k with
  | base rt => exact run_call_base (Runtime.run_captureTrap hr)
  | journaled jr =>
    exact run_call_journaled (JournaledRuntime.run_onRuntime jr (Runtime.run_captureTrap hr))

end KernelRuntime

namespace KernelInv

variable {kind : KernelRuntimeKind} {k k' : KernelRuntime} {e : KernelEvent}

theorem booted (h : Booted kind k) : KernelInv kind k := by
  obtain ⟨k₀, next, hpublished, hdispatch⟩ := h
  cases hpublished with
  | cooperative hnew =>
    obtain ⟨rt', hrt, rfl⟩ := call_base_eq hdispatch
    exact .cooperative (CoopInv.booted hnew hrt).1
  | supervised hnew =>
    obtain ⟨rt', hrt, rfl⟩ := call_base_eq hdispatch
    exact .supervised (SupInv.booted hnew hrt).1
  | journaled hnew =>
    obtain ⟨jr', hjr, rfl⟩ := call_journaled_eq hdispatch
    exact .journaled (JInv.booted hnew hjr).1

theorem slots (h : KernelInv kind k) : SlotsOk k.runtime ∧
    k.runtime.task0.id = senderTaskId ∧ k.runtime.task1.id = receiverTaskId := by
  cases h with
  | cooperative inv => exact ⟨inv.valid.toSlotsOk, inv.id0, inv.id1⟩
  | supervised inv => exact ⟨inv.valid.toSlotsOk, inv.id0, inv.id1⟩
  | journaled inv => exact ⟨inv.sup.valid.toSlotsOk, inv.sup.id0, inv.sup.id1⟩

theorem running_iff (h : KernelInv kind k) {task : UInt64} :
    k.runningTask = .ok task ↔ k.runtime.Running task :=
  runningTask_eq_ok h.slots.2.1 h.slots.2.2 h.slots.1.one_running

theorem validate (h : KernelInv kind k) : k.validate = .ok () := by
  cases h with
  | cooperative inv => exact inv.validate
  | supervised inv => exact inv.validate
  | journaled inv => exact inv.validate

/-- Every case keeps the invariant. -/
theorem effect (h : KernelInv kind k) (he : KernelEffect k e k') : KernelInv kind k' := by
  cases he with
  | trap running root_ne effect =>
    cases h with
    | cooperative inv =>
      exact .cooperative ((inv.captured running root_ne).effect running.captured effect)
    | supervised inv =>
      exact .supervised ((inv.captured running root_ne).effect running.captured effect)
  | begun exited live effect =>
    cases h with
    | cooperative inv => exact .cooperative (inv.begun exited live effect)
    | supervised inv => exact .supervised (inv.toSupCore.begun exited live effect)
  | completed exited closing effect =>
    cases h with
    | cooperative inv => exact .cooperative (inv.completed exited closing effect)
    | supervised inv => exact .supervised (inv.toSupCore.completed exited closing effect)
  | journaledTrap running root_ne effect =>
    cases h with
    | journaled inv =>
      exact .journaled ((inv.captured running root_ne).effect running.captured effect)
  | journaledBegun exited live effect =>
    cases h with
    | journaled inv => exact .journaled (inv.journaledBegun exited live effect)
  | journaledCompleted exited closing effect =>
    cases h with
    | journaled inv => exact .journaled (inv.completed exited closing effect)
  | reclaimed dead0 dead1 =>
    cases h with
    | journaled inv => exact .journaled (inv.reclaimed dead0 dead1)

/-- Every trap of the running task is answered. -/
theorem answers (h : KernelInv kind k) {task root : UInt64} (frame : TrapFrame)
    (hr : k.runtime.Running task) (hroot : root ≠ 0) :
    ∃ outcome k',
      (KernelRuntime.handleTrap task).run (k.captured task root frame) = (.ok outcome, k') ∧
      KernelEffect k (.trap task frame outcome (k.captured task root frame).runtime k'.runtime)
        k' := by
  cases h with
  | cooperative inv | supervised inv =>
    obtain ⟨outcome, rt', he, hrun⟩ := (inv.captured hr hroot).answers hr.captured
    exact ⟨outcome, _, run_call_base hrun, .trap hr hroot he⟩
  | @journaled jr inv =>
    obtain ⟨outcome, jr', he, hrun⟩ :=
      journaled_answers (inv.captured hr hroot) hr.captured
    exact ⟨outcome, _, run_call_journaled hrun, .journaledTrap hr hroot he⟩

/-- A trap step captures the running task and handles the trap. -/
theorem trap_step (h : KernelInv kind k) {task : UInt64} {frame : TrapFrame}
    {outcome : TrapOutcome} {before after : Runtime}
    (hs : KernelStep k (.trap task frame outcome before after) k') :
    k.runtime.Running task ∧ ∃ root, root ≠ 0 ∧
      before = k.runtime.captured task root frame ∧ after = k'.runtime ∧
      (KernelRuntime.handleTrap task).run (k.captured task root frame) = (.ok outcome, k') := by
  cases hs with
  | @trap _ k₁ _ task gen root frame outcome running own_generation root_ne captured handled =>
    have hr := h.running_iff.mp running
    obtain rfl : (k.runtime.slotOf task).generation = gen := by
      rw [KernelRuntime.generation, Runtime.generation, slot_of_known hr.known]
        at own_generation
      exact Except.ok.inj own_generation
    have hcapture := @KernelRuntime.run_captureTrap k task root frame hr
    obtain rfl : k.captured task root frame = k₁ := congrArg Prod.snd (hcapture.symm.trans captured)
    exact ⟨hr, root, root_ne, k.runtime_captured, rfl, handled⟩

/-- Under the invariant, a successful call is one of the cases. -/
theorem step (h : KernelInv kind k) (hs : KernelStep k e k') : KernelEffect k e k' := by
  cases hs with
  | @trap _ k₁ _ task gen root frame outcome running own_generation root_ne captured handled =>
    have hs := KernelStep.trap running own_generation root_ne captured handled
    obtain ⟨hr, root', hroot, hbefore, -, hhandle⟩ := h.trap_step hs
    obtain ⟨outcome', k'', hhandle', he⟩ := h.answers frame hr hroot
    obtain ⟨rfl, rfl⟩ := Method.run_ok_inj hhandle' hhandle
    rw [hbefore, ← k.runtime_captured]
    exact he
  | beginTeardown begun =>
    cases h with
    | cooperative inv | supervised inv =>
      obtain ⟨rt', hrun, rfl⟩ := call_base_eq begun
      obtain ⟨hx, hlive⟩ := beginTeardown_ok hrun
      obtain ⟨rt'', hb, hrun'⟩ := inv.begins hx hlive
      obtain rfl : rt'' = rt' := congrArg Prod.snd (hrun'.symm.trans hrun)
      exact .begun hx hlive hb
    | journaled inv =>
      obtain ⟨jr', hrun, rfl⟩ := call_journaled_eq begun
      obtain ⟨hx, hlive⟩ := beginTeardown_ok inv hrun
      obtain ⟨jr'', hb, hrun'⟩ := beginTeardown_begins inv hx hlive
      obtain rfl : jr'' = jr' := congrArg Prod.snd (hrun'.symm.trans hrun)
      exact .journaledBegun hx hlive hb
  | completeTeardown completed =>
    cases h with
    | cooperative inv | supervised inv =>
      obtain ⟨rt', hrun, rfl⟩ := call_base_eq completed
      obtain ⟨hx, hclosing, hc⟩ := inv.completeTeardown_effect hrun
      exact .completed hx hclosing hc
    | journaled inv =>
      obtain ⟨jr', hrun, rfl⟩ := call_journaled_eq completed
      obtain ⟨rt', hinner, rfl⟩ := completeTeardown_eq_ok hrun
      obtain ⟨hx, hclosing, hc⟩ := inv.sup.completeTeardown_effect hinner
      exact .journaledCompleted hx hclosing hc
  | finishReclamation finished =>
    obtain ⟨h0, h1, rfl⟩ := finishReclamation_ok finished
    exact .reclaimed h0 h1

/-- Every run keeps the invariant. -/
theorem run {history : List KernelEvent} (h : Run (kernelSystem kind) history k) :
    KernelInv kind k :=
  h.state_invariant (fun _ => booted) fun _ _ _ h hs => h.effect (h.step hs)

end KernelInv

/-! ## Executable runs -/

namespace KernelRuntime

variable {kind : KernelRuntimeKind} {k k' : KernelRuntime}

theorem publish_published {first second : TaskContext} (h : publish kind first second = .ok k) :
    Published kind k := by
  unfold publish at h
  cases kind with
  | cooperative =>
    obtain ⟨rt, hnew, rfl⟩ := map_eq_ok.mp h
    exact .cooperative hnew
  | supervised =>
    obtain ⟨rt, hnew, rfl⟩ := map_eq_ok.mp h
    exact .supervised hnew
  | journaled =>
    obtain ⟨jr, hnew, rfl⟩ := map_eq_ok.mp h
    exact .journaled hnew

theorem boot_booted {first second : TaskContext} (h : boot kind first second = .ok k) :
    Booted kind k := by
  obtain ⟨k₀, hp, h⟩ := bind_eq_ok.mp h
  rcases hd : dispatchNext.run k₀ with ⟨_ | next, k₁⟩ <;> rw [hd] at h <;> cases h
  exact ⟨k₀, next, publish_published hp, hd⟩

theorem perform_step {call : KernelCall} {e : KernelEvent} (h : k.perform call = .ok (e, k')) :
    KernelStep k e k' := by
  cases call with
  | trap root root_ne frame =>
    obtain ⟨task, htask, h⟩ := bind_eq_ok.mp h
    obtain ⟨gen, hgen, h⟩ := bind_eq_ok.mp h
    rcases hcapture : (captureTrap task frame root gen).run k with ⟨_ | _, k₁⟩ <;>
      rw [hcapture] at h
    · cases h
    rcases hhandle : (handleTrap task).run k₁ with ⟨_ | outcome, k₂⟩ <;> simp only [hhandle] at h <;>
      cases h
    exact .trap htask hgen root_ne hcapture hhandle
  | beginTeardown task =>
    rw [perform] at h
    rcases hrun : (beginTeardown task).run k with ⟨_ | _, k₁⟩ <;> rw [hrun] at h <;> cases h
    exact .beginTeardown hrun
  | completeTeardown task =>
    rw [perform] at h
    rcases hrun : (completeTeardown task).run k with ⟨_ | next, k₁⟩ <;> rw [hrun] at h <;> cases h
    exact .completeTeardown hrun
  | finishReclamation =>
    cases k with
    | base rt => cases h
    | journaled jr =>
      rw [perform] at h
      rcases hrun : JournaledRuntime.finishReclamation.run jr with ⟨_ | _, jr'⟩ <;>
        simp only [hrun] at h <;> cases h
      exact .finishReclamation hrun

/-- A replay is a run. -/
theorem replay_run {calls : List KernelCall} :
    ∀ {k k' : KernelRuntime} {history events : List KernelEvent},
      Run (kernelSystem kind) history k → k.replay calls = .ok (events, k') →
      Run (kernelSystem kind) (history ++ events) k' := by
  induction calls with
  | nil =>
    intro k k' history events hrun h
    cases h
    rw [List.append_nil]
    exact hrun
  | cons call calls ih =>
    intro k k' history events hrun h
    obtain ⟨⟨e, k₁⟩, hperform, h⟩ := bind_eq_ok.mp h
    obtain ⟨⟨events', k''⟩, hrest, h⟩ := bind_eq_ok.mp h
    cases h
    have hnext := ih (hrun.step (perform_step hperform)) hrest
    rwa [List.append_assoc] at hnext

theorem execute_run {first second : TaskContext} {calls : List KernelCall}
    {events : List KernelEvent} (h : (events, k) ∈ execute kind first second calls) :
    Run (kernelSystem kind) events k := by
  unfold execute at h
  cases hreplay : boot kind first second >>= fun k => k.replay calls with
  | error e =>
    rw [hreplay] at h
    cases h
  | ok result =>
    rw [hreplay] at h
    cases h
    obtain ⟨k₀, hboot, hrest⟩ := bind_eq_ok.mp hreplay
    exact replay_run (.start (boot_booted hboot)) hrest

end KernelRuntime

end MakopaVerified.TaskRuntime
