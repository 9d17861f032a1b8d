import MakopaVerified.TaskRuntime.Proofs.KernelProofs

/-!
# The kernel does not get stuck

In every run of every profile a trap of the running task is answered. A task that has exited is
torn down in both phases and hands over to its peer, with one exception: a supervisor that exits
before it has launched the workload.
-/

namespace MakopaVerified.TaskRuntime

open Foundation KernelRuntime

/-! ## Traps -/

/-- No trap that user code can make stops the kernel, in any profile and after any run: the
registers are captured, the operation is answered, and the runtime passes its check. -/
theorem trap_never_fails {kind : KernelRuntimeKind} {history : List KernelEvent}
    {k : KernelRuntime} (hrun : Run (kernelSystem kind) history k) {task gen root : UInt64}
    (hrunning : k.runningTask = .ok task) (hgen : k.generation task = .ok gen)
    (hroot : root ≠ 0) (frame : TrapFrame) :
    ∃ k₁ outcome k',
      (KernelRuntime.captureTrap task frame root gen).run k = (.ok (), k₁) ∧
      (KernelRuntime.handleTrap task).run k₁ = (.ok outcome, k') ∧ k'.validate = .ok () := by
  have hinv := KernelInv.run hrun
  have hr := hinv.running_iff.mp hrunning
  obtain rfl : (k.runtime.slotOf task).generation = gen := by
    rw [KernelRuntime.generation, Runtime.generation, Runtime.slot_of_known hr.known] at hgen
    exact Except.ok.inj hgen
  obtain ⟨outcome, k', hhandle, he⟩ := hinv.answers frame hr hroot
  exact ⟨_, outcome, k', run_captureTrap hr, hhandle, (hinv.effect he).validate⟩

/-- The journaled supervisor launches the workload and yields to it; the workload's trap, here a
request for approval, is answered. -/
theorem trap_never_fails_workload :
    ∃ events k, Run (kernelSystem .journaled) events k ∧ k.runningTask = .ok receiverTaskId ∧
      ∃ k₁ outcome k',
        (KernelRuntime.captureTrap receiverTaskId (.request 7 16 1 99) 4096 workloadGeneration).run
          k = (.ok (), k₁) ∧
        (KernelRuntime.handleTrap receiverTaskId).run k₁ = (.ok outcome, k') ∧
        k'.validate = .ok () := by
  have hexec : ∃ r ∈ KernelRuntime.execute .journaled (.start senderTaskId supervisorGeneration)
      (.start receiverTaskId workloadGeneration) [.request 6 16 1 0, .request 0 0 0 0],
      r.2.runningTask = .ok receiverTaskId ∧
        r.2.generation receiverTaskId = .ok workloadGeneration := by
    decide +kernel
  obtain ⟨⟨events, k⟩, hmem, hrunning, hgen⟩ := hexec
  have hrun := execute_run hmem
  exact ⟨events, k, hrun, hrunning, trap_never_fails hrun hrunning hgen (by decide) _⟩

/-! ## The task that goes on -/

/-- The task that an outcome selects. -/
def TrapOutcome.selected : TrapOutcome → Option UInt64
  | .resume next => some next
  | .switch next => some next
  | .exit _ => none

section Selected

variable {rt rt' : Runtime} {k k' : KernelRuntime} {task next : UInt64} {outcome : TrapOutcome}

theorem Runtime.Running.mapSlot {f : TaskSlot → TaskSlot} (hr : rt.Running task)
    (hf : ∀ s, (f s).state = s.state) : (Runtime.mapSlot task f rt).Running task := by
  rcases hr with ⟨rfl, hr⟩ | ⟨rfl, hr⟩
  · exact .inl ⟨rfl, (hf _).trans hr⟩
  · exact .inr ⟨rfl, (hf _).trans hr⟩

/-- The task that a trap selects is the running one. -/
theorem TrapEffect.selects (he : TrapEffect rt task outcome rt') (hr : rt.Running task)
    (hnext : outcome.selected = some next) : rt'.Running next := by
  cases he with
  | refused | kept | duplicated | closed | inspected =>
    obtain rfl := Option.some.inj hnext
    exact hr.mapSlot fun _ => rfl
  | yielded op other known waiting =>
    obtain rfl := Option.some.inj hnext
    rcases known with rfl | rfl
    · exact .inl ⟨rfl, rfl⟩
    · exact .inr ⟨rfl, rfl⟩
  | exited op => cases hnext
  | stored op sender | delivered op sender | launched op sender | approved op sender
  | concluded op sender | exhausted op sender | committed op sender =>
    subst sender
    obtain rfl := Option.some.inj hnext
    exact .inl ⟨rfl, hr.state⟩
  | took op receiver =>
    subst receiver
    obtain rfl := Option.some.inj hnext
    exact .inr ⟨rfl, hr.state⟩
  | blocked op receiver | submitted op receiver =>
    obtain rfl := Option.some.inj hnext
    exact .inl ⟨rfl, rfl⟩

theorem JournaledEffect.selects {jr jr' : JournaledRuntime}
    (he : JournaledEffect jr task outcome jr') (hr : jr.runtime.Running task)
    (hnext : outcome.selected = some next) : jr'.runtime.Running next := by
  cases he with
  | unrecorded inner | requested inner | approved inner | concluded inner | committed inner =>
    exact inner.selects hr hnext
  | read op fixed =>
    obtain rfl := Option.some.inj hnext
    exact hr.mapSlot fun _ => rfl
  | failed live supervisor op approval =>
    subst supervisor
    obtain rfl := Option.some.inj hnext
    exact .inl ⟨rfl, hr.state⟩

theorem KernelEffect.selects {frame : TrapFrame} {before after : Runtime}
    (he : KernelEffect k (.trap task frame outcome before after) k')
    (hnext : outcome.selected = some next) : k'.runtime.Running next := by
  cases he with
  | trap running root_ne effect => exact effect.selects running.captured hnext
  | journaledTrap running root_ne effect =>
    exact effect.selects running.captured hnext

end Selected

/-! ## Exits -/

section Exit

variable {rt rt' : Runtime} {task t : UInt64}

theorem TrapEffect.exit_eq (he : TrapEffect rt task (.exit t) rt') :
    t = task ∧ rt' = Runtime.mapSlot task (TaskSlot.withState .exited) rt := by
  cases he with
  | exited op => exact ⟨rfl, rfl⟩

/-- Journal reads and failed commits resume the caller; everything else is a trap of the runtime
itself. -/
theorem JournaledEffect.inner_of_ne {jr jr' : JournaledRuntime} {outcome : TrapOutcome}
    (he : JournaledEffect jr task outcome jr') (hne : outcome ≠ .resume task) :
    TrapEffect jr.runtime task outcome jr'.runtime := by
  cases he with
  | unrecorded inner | requested inner | approved inner | concluded inner | committed inner =>
    exact inner
  | read | failed => exact absurd rfl hne

/-- A task that has just exited still has its handles. -/
theorem KernelInv.exited {kind : KernelRuntimeKind} {k k' : KernelRuntime} {frame : TrapFrame}
    {before after : Runtime} (h : KernelInv kind k)
    (he : KernelEffect k (.trap task frame (.exit t) before after) k') :
    t = task ∧ Exited k'.runtime task ∧ (k'.runtime.slotOf task).capabilities.state = .live := by
  have hlive : ∀ {root : UInt64}, k.runtime.Running task →
      (Runtime.mapSlot task (TaskSlot.withState .exited)
        (k.runtime.captured task root frame)) = k'.runtime →
      Exited k'.runtime task ∧ (k'.runtime.slotOf task).capabilities.state = .live := by
    intro root hr heq
    rw [← heq]
    rcases hr with ⟨rfl, hr⟩ | ⟨rfl, hr⟩
    · exact ⟨⟨.inl rfl, rfl⟩, h.slots.1.slot0.table_live (by rw [hr]; rfl)⟩
    · exact ⟨⟨.inr rfl, rfl⟩, h.slots.1.slot1.table_live (by rw [hr]; rfl)⟩
  cases he with
  | trap running root_ne effect =>
    obtain ⟨rfl, heq⟩ := effect.exit_eq
    exact ⟨rfl, hlive running heq.symm⟩
  | journaledTrap running root_ne effect =>
    obtain ⟨rfl, heq⟩ := (effect.inner_of_ne nofun).exit_eq
    exact ⟨rfl, hlive running heq.symm⟩

namespace TeardownBegun

/-- The task stays exited, and its handles are closing. -/
theorem exited (hb : TeardownBegun rt task rt') (hx : Exited rt task) :
    Exited rt' task ∧ (rt'.slotOf task).capabilities.state = .closing := by
  refine ⟨⟨hb.known, ?_⟩, by rw [hb.tables.1]; rfl⟩
  have hs := hx.state
  cases hb with
  | sender | senderWakes | receiver | supervisor | supervisorWakes | workload => exact hs

/-- A peer is dead or staged after the first phase if it was before. -/
theorem peer_iff (hb : TeardownBegun rt task rt') {state : TaskState}
    (hstate : state = .dead ∨ state = .staged) :
    (rt'.slotOf (peerOf task)).state = state ↔ (rt.slotOf (peerOf task)).state = state := by
  have hwoken : TaskState.ready ≠ state := by
    rcases hstate with rfl | rfl <;> decide
  cases hb with
  | sender | receiver | supervisor | workload => exact Iff.rfl
  | senderWakes cooperative vacant blocked =>
    have hblocked : TaskState.blockedReceive ≠ state := by
      rcases hstate with rfl | rfl <;> decide
    show TaskState.ready = state ↔ rt.task1.state = state
    rw [blocked]
    exact iff_of_false hwoken hblocked
  | supervisorWakes supervised blocked told =>
    have hblocked : TaskState.blockedApproval ≠ state := by
      rcases hstate with rfl | rfl <;> decide
    show TaskState.ready = state ↔ rt.task1.state = state
    rw [blocked]
    exact iff_of_false hwoken hblocked

end TeardownBegun

/-- The second phase goes on with the peer, or nothing is left. -/
theorem TeardownCompleted.outcome {next : Option UInt64} (hk : KnownTask task)
    (hc : TeardownCompleted rt task next rt') :
    ((rt.slotOf (peerOf task)).state ≠ .dead →
      next = some (peerOf task) ∧ rt'.Running (peerOf task)) ∧
    ((rt.slotOf (peerOf task)).state = .dead →
      next = none ∧ rt'.task0.state = .dead ∧ rt'.task1.state = .dead) := by
  cases hc with
  | finished dead =>
    refine ⟨fun halive => absurd dead halive, fun _ => ⟨rfl, ?_⟩⟩
    rw [Runtime.buried_of_peer_dead hk dead]
    rcases hk with rfl | rfl
    · exact ⟨rfl, dead⟩
    · exact ⟨dead, rfl⟩
  | handedOver ready =>
    refine ⟨fun _ => ⟨rfl, ?_⟩, fun hd => nomatch ready.symm.trans hd⟩
    rcases hk with rfl | rfl
    · exact .inr ⟨rfl, rfl⟩
    · exact .inl ⟨rfl, rfl⟩

/-- What the first phase of any profile leaves of the two slots. -/
theorem KernelEffect.begun_slots {k k' : KernelRuntime} {before after : Runtime}
    (he : KernelEffect k (.beginTeardown task before after) k') :
    Exited k'.runtime task ∧ (k'.runtime.slotOf task).capabilities.state = .closing ∧
      ∀ state : TaskState, state = .dead ∨ state = .staged →
        ((k'.runtime.slotOf (peerOf task)).state = state ↔
          (k.runtime.slotOf (peerOf task)).state = state) := by
  cases he with
  | begun exited live effect =>
    obtain ⟨hx, hclosing⟩ := effect.exited exited
    exact ⟨hx, hclosing, fun _ => effect.peer_iff⟩
  | journaledBegun exited live effect =>
    cases effect with
    | quiet inner idle journal =>
      obtain ⟨hx, hclosing⟩ := inner.exited exited
      exact ⟨hx, hclosing, fun _ => inner.peer_iff⟩
    | terminal inner live' decision =>
      obtain ⟨hx, hclosing⟩ := inner.exited ⟨exited.known, exited.state⟩
      exact ⟨hx, hclosing, fun _ => inner.peer_iff⟩

namespace KernelInv

variable {kind : KernelRuntimeKind} {k : KernelRuntime}

theorem begins (h : KernelInv kind k) (hx : Exited k.runtime task)
    (hlive : (k.runtime.slotOf task).capabilities.state = .live) :
    ∃ k', KernelEffect k (.beginTeardown task k.runtime k'.runtime) k' ∧
      (KernelRuntime.beginTeardown task).run k = (.ok (), k') := by
  cases h with
  | cooperative inv | supervised inv =>
    obtain ⟨rt', hb, hrun⟩ := inv.begins hx hlive
    exact ⟨.base rt', .begun hx hlive hb, run_call_base hrun⟩
  | journaled inv =>
    obtain ⟨jr', hb, hrun⟩ := JournaledRuntime.beginTeardown_begins inv hx hlive
    exact ⟨.journaled jr', .journaledBegun hx hlive hb, run_call_journaled hrun⟩

theorem completes (h : KernelInv kind k) (hx : Exited k.runtime task)
    (hclosing : (k.runtime.slotOf task).capabilities.state = .closing)
    (hstarted : ¬ (task = senderTaskId ∧ k.runtime.task1.state = .staged)) :
    ∃ next k', TeardownCompleted k.runtime task next k'.runtime ∧
      (KernelRuntime.completeTeardown task).run k = (.ok next, k') := by
  cases h with
  | cooperative inv =>
    obtain ⟨next, rt', hc, hrun⟩ := inv.completes hx hclosing
    exact ⟨next, .base rt', hc, run_call_base hrun⟩
  | supervised inv =>
    obtain ⟨next, rt', hc, hrun⟩ := inv.completes hx hclosing hstarted
    exact ⟨next, .base rt', hc, run_call_base hrun⟩
  | @journaled jr inv =>
    obtain ⟨next, rt', hc, hrun⟩ := inv.completes hx hclosing hstarted
    exact ⟨next, .journaled { jr with runtime := rt' }, hc, run_call_journaled hrun⟩

theorem refuses (h : KernelInv kind k) (hx : Exited k.runtime senderTaskId)
    (hclosing : k.runtime.task0.capabilities.state = .closing)
    (hstaged : k.runtime.task1.state = .staged) :
    (KernelRuntime.completeTeardown senderTaskId).run k = (.error .noRunnableTask, k) := by
  cases h with
  | cooperative inv => exact absurd hstaged inv.coop.receiver_state.1
  | supervised inv => exact run_call_base (inv.refuses hx hclosing hstaged)
  | journaled inv =>
    exact run_call_journaled
      (JournaledRuntime.run_completeTeardown_error (inv.sup.refuses hx hclosing hstaged))

end KernelInv

end Exit

/-- Both phases of the teardown of an exited task succeed; the peer then runs if it is not dead,
and otherwise both tasks are dead and no task is returned. -/
def TornDown (k : KernelRuntime) (task : UInt64) : Prop :=
  ∃ k₁ next k₂, (KernelRuntime.beginTeardown task).run k = (.ok (), k₁) ∧
    (KernelRuntime.completeTeardown task).run k₁ = (.ok next, k₂) ∧
    ((k.runtime.slotOf (peerOf task)).state ≠ .dead →
      next = some (peerOf task) ∧ k₂.runtime.Running (peerOf task)) ∧
    ((k.runtime.slotOf (peerOf task)).state = .dead →
      next = none ∧ k₂.runtime.task0.state = .dead ∧ k₂.runtime.task1.state = .dead)

theorem KernelInv.tornDown_iff {kind : KernelRuntimeKind} {k : KernelRuntime} {task : UInt64}
    (h : KernelInv kind k) (hx : Exited k.runtime task)
    (hlive : (k.runtime.slotOf task).capabilities.state = .live) :
    TornDown k task ↔ ¬ (task = senderTaskId ∧ k.runtime.task1.state = .staged) := by
  obtain ⟨k₁, he, hbegin⟩ := h.begins hx hlive
  obtain ⟨hx₁, hclosing, hpeer⟩ := he.begun_slots
  have hinv₁ := h.effect he
  constructor
  · rintro ⟨k₁', next, k₂, hbegin', hcomplete, -⟩ ⟨rfl, hstaged⟩
    obtain rfl : k₁ = k₁' := congrArg Prod.snd (hbegin.symm.trans hbegin')
    rw [hinv₁.refuses hx₁ hclosing ((hpeer .staged (.inr rfl)).mpr hstaged)] at hcomplete
    cases hcomplete
  · intro hstarted
    have hstarted₁ : ¬ (task = senderTaskId ∧ k₁.runtime.task1.state = .staged) := by
      rintro ⟨rfl, hstaged⟩
      exact hstarted ⟨rfl, (hpeer .staged (.inr rfl)).mp hstaged⟩
    obtain ⟨next, k₂, hc, hcomplete⟩ := hinv₁.completes hx₁ hclosing hstarted₁
    obtain ⟨halive, hdead⟩ := hc.outcome hx.known
    have hiff := hpeer .dead (.inl rfl)
    exact ⟨k₁, next, k₂, hbegin, hcomplete, fun ha => halive fun hd => ha (hiff.mp hd),
      fun hd => hdead (hiff.mpr hd)⟩

/-- After every run that ends with an exit, both phases of the teardown succeed and the surviving
task goes on, unless it is the supervisor that has exited and the workload was never launched. -/
theorem exit_torn_down_iff {kind : KernelRuntimeKind} {history : List KernelEvent}
    {e : KernelEvent} {k : KernelRuntime} {task : UInt64}
    (hrun : Run (kernelSystem kind) (history ++ [e]) k) (hexit : e.exits = some task) :
    TornDown k task ↔ ¬ (task = senderTaskId ∧ k.runtime.task1.state = .staged) := by
  obtain ⟨k₀, hrun₀, hstep⟩ := hrun.of_append_singleton
  have hinv := KernelInv.run hrun₀
  have he := hinv.step hstep
  have hk := hinv.effect he
  unfold KernelEvent.exits at hexit
  split at hexit
  · obtain rfl := Option.some.inj hexit
    obtain ⟨rfl, hx, hlive⟩ := hinv.exited he
    exact hk.tornDown_iff hx hlive
  · cases hexit

/-- The workload exits after the supervisor has launched it: the supervisor goes on. -/
theorem workload_exit_torn_down :
    ∃ events k, Run (kernelSystem .journaled) events k ∧ TornDown k receiverTaskId := by
  have hexec : ∃ r ∈ KernelRuntime.execute .journaled (.start senderTaskId supervisorGeneration)
      (.start receiverTaskId workloadGeneration)
      [.request 6 16 1 0, .request 0 0 0 0, .request 3 0 0 0],
      r.1.map KernelEvent.exits = [none, none] ++ [some receiverTaskId] := by
    decide +kernel
  obtain ⟨⟨events, k⟩, hmem, hexits⟩ := hexec
  have hrun := execute_run hmem
  obtain ⟨history, last, rfl, -, hlast⟩ := List.map_eq_append_iff.mp hexits
  obtain ⟨e, rfl, hexit⟩ := List.map_eq_singleton_iff.mp hlast
  exact ⟨_, k, hrun, (exit_torn_down_iff hrun hexit).mpr fun h => absurd h.1 (by decide)⟩

/-- A run that ends with the exit of the supervisor, whose first phase succeeds and whose second
phase finds no task to run and takes everything back. -/
def StuckExit (kind : KernelRuntimeKind) : Prop :=
  ∃ e k k₁, Run (kernelSystem kind) [e] k ∧ e.exits = some senderTaskId ∧
    (KernelRuntime.beginTeardown senderTaskId).run k = (.ok (), k₁) ∧
    (KernelRuntime.completeTeardown senderTaskId).run k₁ = (.error .noRunnableTask, k₁)

theorem stuckExit_of_execute {kind : KernelRuntimeKind}
    (hexec : ∃ r ∈ KernelRuntime.execute kind (.start senderTaskId supervisorGeneration)
        (.start receiverTaskId workloadGeneration) [.request 3 0 0 0],
      r.1.map KernelEvent.exits = [some senderTaskId] ∧
        ((KernelRuntime.beginTeardown senderTaskId).run r.2).1 = .ok () ∧
        (KernelRuntime.completeTeardown senderTaskId).run
          ((KernelRuntime.beginTeardown senderTaskId).run r.2).2 =
          (.error .noRunnableTask, ((KernelRuntime.beginTeardown senderTaskId).run r.2).2)) :
    StuckExit kind := by
  obtain ⟨⟨events, k⟩, hmem, hexits, hbegin, hcomplete⟩ := hexec
  obtain ⟨e, rfl, hexit⟩ := List.map_eq_singleton_iff.mp hexits
  exact ⟨e, k, _, execute_run hmem, hexit, Prod.ext hbegin rfl, hcomplete⟩

/-- A supervisor that exits at once is stuck in both profiles. -/
theorem unlaunched_exit_stuck : StuckExit .supervised ∧ StuckExit .journaled :=
  ⟨stuckExit_of_execute (by decide +kernel), stuckExit_of_execute (by decide +kernel)⟩

end MakopaVerified.TaskRuntime
