import MakopaVerified.TaskRuntime.Contexts
import MakopaVerified.TaskRuntime.Proofs.ReadProofs
import MakopaVerified.TaskRuntime.Proofs.TransactionProofs

/-!
# The frame condition of a trap

A trap writes the caller's result registers and, when it wakes the peer, the peer's. Read off the
cases of `TrapEffect`, so that no operation is looked at twice; only the reads of the journal and
the failed commit, which the journaled runtime handles itself, are looked at in the code.
-/

namespace MakopaVerified.TaskRuntime

open Foundation TaskRuntime.Runtime KernelRuntime JournaledRuntime

/-! ## Registers -/

namespace TaskContext

variable {c c' c'' : TaskContext}

theorem SameButResult.refl (c : TaskContext) : c.SameButResult c := rfl

theorem SameButResult.output (h : c.SameButResult c') : c.SameButOutput c' := by
  unfold SameButResult at h
  unfold SameButOutput
  rw [h]

theorem SameButOutput.trans (h : c.SameButOutput c') (h' : c'.SameButOutput c'') :
    c.SameButOutput c'' := by
  unfold SameButOutput at *
  rw [h', h]

/-- The check reads none of the result registers. -/
theorem SameButOutput.validate (h : c.SameButOutput c')
    (expectedTask expectedGeneration expectedRoot : UInt64) (policy : ContextPolicy) :
    c'.validate expectedTask expectedGeneration expectedRoot policy =
      c.validate expectedTask expectedGeneration expectedRoot policy := by
  unfold SameButOutput at h
  rw [h]
  rfl

end TaskContext

/-! ## Traps of the runtime -/

namespace Runtime

variable {rt : Runtime} {task : UInt64} {f : TaskSlot → TaskSlot}

theorem input_mapSlot (hk : KnownTask task) :
    (mapSlot task f rt).input task = (f (rt.slotOf task)).context := by
  rw [input, slotOf_mapSlot hk]

theorem slotOf_mapSlot_peer (hk : KnownTask task) :
    (mapSlot task f rt).slotOf (peerOf task) = rt.slotOf (peerOf task) := by
  rcases hk with rfl | rfl <;> rfl

theorem input_mapSlot_peer (hk : KnownTask task) :
    (mapSlot task f rt).input (peerOf task) = rt.input (peerOf task) := by
  rw [input, slotOf_mapSlot_peer hk]
  rfl

/-- A yield writes the caller's result and dispatches the peer. -/
theorem input_yielded {peer : UInt64} {queue : RunQueue} (hk : KnownTask task)
    (known : KnownTask peer) (other : peer ≠ task) :
    (mapSlot peer (TaskSlot.withState .running) (mapSlot task (TaskSlot.woken .ok 0)
        { rt with queue := queue })).input task = (rt.input task).setResult .ok 0 ∧
      (mapSlot peer (TaskSlot.withState .running) (mapSlot task (TaskSlot.woken .ok 0)
        { rt with queue := queue })).input (peerOf task) = rt.input (peerOf task) := by
  rcases hk with rfl | rfl
  · rcases known with rfl | rfl
    · exact absurd rfl other
    · exact ⟨rfl, rfl⟩
  · rcases known with rfl | rfl
    · exact ⟨rfl, rfl⟩
    · exact absurd rfl other

end Runtime

namespace TrapEffect

variable {rt rt' : Runtime} {task : UInt64} {outcome : TrapOutcome}

/-- The caller's registers after a trap. -/
theorem caller_registers (hk : KnownTask task) (he : TrapEffect rt task outcome rt') :
    (rt.input task).SameButResult (rt'.input task) ∨
      (rt.input task).SameButOutput (rt'.input task) ∧
        rt.operation task = some .inspectApproval ∧ rt'.Told task .ok := by
  cases he with
  | refused | kept | exited | duplicated | closed =>
    rw [input_mapSlot hk]
    exact .inl rfl
  | yielded op other known waiting =>
    rw [(input_yielded hk known other).1]
    exact .inl rfl
  | inspected op supervised pending =>
    refine .inr ⟨?_, op, ?_⟩
    · rw [input_mapSlot hk]
      rfl
    · unfold Runtime.Told
      rw [input_mapSlot hk]
      rfl
  | stored op sender | delivered op sender | launched op sender | approved op sender
  | concluded op sender | exhausted op sender | committed op sender =>
    subst sender
    exact .inl rfl
  | took op receiver | blocked op receiver | submitted op receiver =>
    subst receiver
    exact .inl rfl

/-- The peer's registers after a trap. A request is open only while the workload waits for it. -/
theorem peer_registers (hk : KnownTask task)
    (hopen : rt.profile = .supervised → rt.broker.state = .pending ∨ rt.broker.state = .approved →
      rt.task1.state = .blockedApproval)
    (he : TrapEffect rt task outcome rt') :
    rt'.input (peerOf task) = rt.input (peerOf task) ∨
      (rt.input (peerOf task)).SameButResult (rt'.input (peerOf task)) ∧
        (rt.slotOf (peerOf task)).state.Blocked ∧ (rt'.slotOf (peerOf task)).state = .ready := by
  cases he with
  | refused | kept | exited | duplicated | closed | inspected =>
    exact .inl (input_mapSlot_peer hk)
  | yielded op other known waiting =>
    exact .inl (input_yielded hk known other).2
  | stored op sender | launched op sender | approved op sender =>
    subst sender
    exact .inl rfl
  | took op receiver | blocked op receiver | submitted op receiver =>
    subst receiver
    exact .inl rfl
  | delivered op sender vacant blocked =>
    subst sender
    exact .inr ⟨rfl, .inl blocked, rfl⟩
  | concluded op sender supervised open_request | exhausted op sender supervised open_request =>
    subst sender
    exact .inr ⟨rfl, .inr (hopen supervised open_request), rfl⟩
  | committed op sender supervised approval =>
    subst sender
    exact .inr ⟨rfl, .inr (hopen supervised (.inr approval)), rfl⟩

/-- A caller that goes on with a status other than `Ok` has changed nothing, unless the broker is
out of epochs. -/
theorem rejected (hk : KnownTask task) (he : TrapEffect rt task outcome rt')
    (hanswered : rt'.Answered task) (hne : ¬ rt'.Told task .ok) :
    (∃ status, status ≠ .ok ∧ outcome = .resume task ∧
        rt' = mapSlot task (TaskSlot.answered status 0) rt) ∨
      rt.OutOfEpochs task ∧ rt'.Told task .brokerUnavailable := by
  -- every other answer is `Ok`
  have hok : ∀ {f : TaskSlot → TaskSlot}, (f (rt.slotOf task)).context.rax = TrapStatus.ok.code →
      rt' = mapSlot task f rt → False := by
    rintro f hf rfl
    exact hne (by rw [Runtime.Told, input_mapSlot hk, hf])
  cases he with
  | @refused status ne_ok => exact .inl ⟨status, ne_ok, rfl, rfl⟩
  | kept | duplicated | closed | inspected => exact (hok rfl rfl).elim
  | yielded op other known waiting =>
    rw [Runtime.Told, (input_yielded hk known other).1] at hne
    exact absurd rfl hne
  | exited op =>
    unfold Runtime.Answered at hanswered
    rw [slotOf_mapSlot hk] at hanswered
    rcases hanswered with hs | hs <;> cases hs
  | stored op sender | delivered op sender | launched op sender | approved op sender
  | concluded op sender | committed op sender =>
    subst sender
    exact absurd rfl hne
  | took op receiver =>
    subst receiver
    exact absurd rfl hne
  | blocked op receiver | submitted op receiver =>
    subst receiver
    rcases hanswered with hs | hs <;> cases hs
  | exhausted op sender supervised open_request epoch =>
    subst sender
    exact .inr ⟨⟨rfl, op, open_request, epoch⟩, rfl⟩

end TrapEffect

/-! ## Traps of the journaled runtime -/

namespace JournaledRuntime

variable {jr jr' : JournaledRuntime} {task : UInt64} {outcome : TrapOutcome}

/-- A commit that is answered `EffectUnavailable` and recorded has met an occupied effect. -/
theorem handleTrap_unavailable (hk : KnownTask task) (hrun : jr.runtime.runningTask = .ok task)
    (hop : jr.runtime.operation task = some .commitEffect) :
    (handleTrap task).Ends jr
      (fun _ jr' => jr'.journal ≠ jr.journal → jr'.runtime.Told task .effectUnavailable →
        jr.runtime.effect.occupied = true)
      fun _ _ => True := by
  have hends : ∀ {o : TrapOutcome} {before jr₁ : JournaledRuntime},
      (jr₁.journal ≠ jr.journal → jr₁.runtime.Told task .effectUnavailable →
        jr.runtime.effect.occupied = true) →
      (finishTrap before o).Ends jr₁
        (fun _ jr' => jr'.journal ≠ jr.journal → jr'.runtime.Told task .effectUnavailable →
          jr.runtime.effect.occupied = true)
        fun _ _ => True := by
    intro o before jr₁ h
    refine .bind ?_
    rcases run_validateOrRestore_cases before jr₁ with ⟨-, hrun⟩ | hrun
    · exact .of_ok hrun (.pure h)
    · exact .of_error hrun trivial
  refine handleTrap_ends hk hrun (by rw [hop]; decide) (fun _ _ _ => trivial) ?_
  intro outcome rt' hinner
  refine .bind (.self (.bind (.of_ok (by rw [Method.run_query, context_of_known hk]) ?_)))
  rw [show TrapOperation.parse (jr.runtime.input task).rax = _ from hop]
  refine .ite (fun hcommit => ?_) fun _ => .ite (fun hfailed => ?_) fun _ => ?_
  · -- a commit that is answered `Ok` is not answered `EffectUnavailable`
    refine .bind (.self (.bind (.bind (onJournal_ends fun r j => ?_))))
    cases r with
    | ok u =>
      refine .pure (hends fun _ htold => ?_)
      exact absurd (TrapStatus.code_injective (hcommit.2.2.symm.trans htold)) (by decide)
    | error e => exact .bind (.update (.fail trivial))
  · obtain ⟨hstatus, -⟩ := (Runtime.handleTrap_ends hk hrun hop
      (commitEffect_ends hk _ _ _)).ok hinner hfailed.2.1 hfailed.2.2
    obtain ⟨-, -, hoccupied⟩ := commitStatus_unavailable hk hstatus
    exact ⟨fun _ _ _ => hoccupied, fun _ => trivial⟩
  · exact hends fun hne => absurd rfl hne

end JournaledRuntime

namespace JournaledEffect

variable {jr jr' : JournaledRuntime} {task : UInt64} {outcome : TrapOutcome}

/-- A trap that is not a read is one of the runtime itself, or the failed commit. -/
theorem inner_or_failed (he : JournaledEffect jr task outcome jr')
    (hread : jr.runtime.operation task ≠ some .inspectEffectJournal ∧
      jr.runtime.operation task ≠ some .readEffectRecord) :
    TrapEffect jr.runtime task outcome jr'.runtime ∨
      task = senderTaskId ∧ jr.runtime.operation task = some .commitEffect ∧
      jr.runtime.broker.state = .approved ∧ jr'.journal ≠ jr.journal ∧
      ∃ broker queue, jr'.runtime =
        { jr.runtime with
          task0 := jr.runtime.task0.answered .effectUnavailable 0
          task1 := jr.runtime.task1.woken .effectUnavailable 0
          broker, queue } := by
  cases he with
  | unrecorded inner | requested inner | approved inner | concluded inner | committed inner =>
    exact .inl inner
  | read op =>
    rcases op with op | op
    · exact absurd op hread.1
    · exact absurd op hread.2
  | failed live supervisor op approval =>
    refine .inr ⟨supervisor, op, approval, fun hsame => ?_, _, _, rfl⟩
    have hcount := congrArg EffectJournal.committedRecordCount hsame
    exact absurd hcount (Nat.succ_ne_self _)

/-- A step of the broker is answered `Ok` or blocks the caller. -/
theorem journal_of_refused {status : TrapStatus} (he : JournaledEffect jr task outcome jr')
    (hread : jr.runtime.operation task ≠ some .inspectEffectJournal ∧
      jr.runtime.operation task ≠ some .readEffectRecord)
    (hsame : jr'.runtime = mapSlot task (TaskSlot.answered status 0) jr.runtime) :
    jr'.journal = jr.journal := by
  have hbroker : jr'.runtime.broker = jr.runtime.broker := by
    rw [hsame, mapSlot_broker]
  -- in every other case the broker has moved
  have hmoved : ∀ s s', jr.runtime.broker.state = s → jr'.runtime.broker.state = s' → s ≠ s' →
      jr'.journal = jr.journal := by
    rintro s s' rfl rfl hne
    exact absurd (congrArg ApprovalBroker.state hbroker).symm hne
  cases he with
  | unrecorded => rfl
  | read op =>
    rcases op with op | op
    · exact absurd op hread.1
    · exact absurd op hread.2
  | requested inner live op idle broker =>
    exact hmoved .empty .pending idle (congrArg ApprovalBroker.state broker) (by decide)
  | approved inner live op pending broker =>
    exact hmoved .pending .approved pending (congrArg ApprovalBroker.state broker) (by decide)
  | concluded inner live op open_request decision broker =>
    rcases open_request with hs | hs
    · exact hmoved .pending .empty hs (congrArg ApprovalBroker.state broker) (by decide)
    · exact hmoved .approved .empty hs (congrArg ApprovalBroker.state broker) (by decide)
  | committed inner live op approval broker =>
    exact hmoved .approved .empty approval (congrArg ApprovalBroker.state broker) (by decide)
  | failed live supervisor op approval => exact hmoved .approved .empty approval rfl (by decide)

end JournaledEffect

/-! ## Traps of the kernel -/

namespace KernelInv

variable {kind : KernelRuntimeKind} {k k' : KernelRuntime} {task root : UInt64}
  {frame : TrapFrame} {outcome : TrapOutcome}

theorem captured (h : KernelInv kind k) (hr : k.runtime.Running task) (hroot : root ≠ 0) :
    KernelInv kind (k.captured task root frame) := by
  cases h with
  | cooperative inv => exact .cooperative (inv.captured hr hroot)
  | supervised inv => exact .supervised (inv.captured hr hroot)
  | journaled inv => exact .journaled (inv.captured hr hroot)

/-- An open request keeps the workload waiting. -/
theorem blocked_of_open (h : KernelInv kind k) (hp : k.runtime.profile = .supervised)
    (ho : k.runtime.broker.state = .pending ∨ k.runtime.broker.state = .approved) :
    k.runtime.task1.state = .blockedApproval := by
  cases h with
  | cooperative inv => exact nomatch inv.profile.symm.trans hp
  | supervised inv => exact inv.toSupCore.blocked_of_open ho
  | journaled inv => exact inv.sup.toSupCore.blocked_of_open ho

end KernelInv

namespace TrapRegisters

variable {kind : KernelRuntimeKind} {task root : UInt64} {frame : TrapFrame}
  {outcome : TrapOutcome}

/-- A refusal is a change of the caller's registers. -/
theorem mapSlot_answered (hk : KnownTask task) (status : TrapStatus) (value : UInt64)
    (rt : Runtime) :
    mapSlot task (TaskSlot.answered status value) rt =
      mapSlot task (TaskSlot.withContext ((rt.input task).setResult status value)) rt := by
  rcases hk with rfl | rfl <;> rfl

theorem of_effect {rt rt' : Runtime} (hk : KnownTask task)
    (hop : rt.operation task = frame.operation)
    (hopen : rt.profile = .supervised → rt.broker.state = .pending ∨ rt.broker.state = .approved →
      rt.task1.state = .blockedApproval)
    (he : TrapEffect rt task outcome rt') :
    TrapRegisters kind task frame (.base rt) (.base rt') where
  caller := by
    rcases he.caller_registers hk with hresult | ⟨houtput, hinspect, htold⟩
    · exact .inl hresult
    · exact .inr ⟨houtput, .inl ⟨hop.symm.trans hinspect, htold⟩⟩
  peer := he.peer_registers hk hopen
  rejected := by
    intro hanswered hne
    rcases he.rejected hk hanswered hne with ⟨status, -, -, rfl⟩ | hexhausted
    · exact .inl ⟨_, congrArg KernelRuntime.base (mapSlot_answered hk status 0 rt)⟩
    · exact .inr (.inl hexhausted)

/-- The reads of the journal. -/
theorem of_read {jr : JournaledRuntime} (hk : KnownTask task) (hreads : frame.ReadsJournal)
    (answer : TrapStatus × UInt64 × UInt64 × UInt64) :
    TrapRegisters .journaled task frame (.journaled jr) (.journaled (jr.afterRead task answer)) where
  caller := by
    refine .inr ⟨?_, .inr ⟨rfl, hreads⟩⟩
    have hinput : (jr.afterRead task answer).runtime.input task =
        JournaledRuntime.readContext (jr.runtime.input task) answer.1 answer.2 :=
      input_mapSlot hk
    show (jr.runtime.input task).SameButOutput ((jr.afterRead task answer).runtime.input task)
    rw [hinput]
    rfl
  peer := .inl (input_mapSlot_peer hk)
  rejected := fun _ _ => .inl ⟨_, rfl⟩

/-- The other traps of the journaled runtime. -/
theorem of_journaled {jr jr' : JournaledRuntime} (h : JInv jr) (hr : jr.runtime.Running task)
    (hop : jr.runtime.operation task = frame.operation)
    (hread : jr.runtime.operation task ≠ some .inspectEffectJournal ∧
      jr.runtime.operation task ≠ some .readEffectRecord)
    (hrun : (JournaledRuntime.handleTrap task).run jr = (.ok outcome, jr'))
    (he : JournaledEffect jr task outcome jr') :
    TrapRegisters .journaled task frame (.journaled jr) (.journaled jr') := by
  have hk := hr.known
  have hopen := fun _ : jr.runtime.profile = .supervised => h.sup.toSupCore.blocked_of_open
  rcases he.inner_or_failed hread with hinner | ⟨rfl, hcommit, happroved, hjournal, b, q, hrt⟩
  · have hbase := @of_effect .journaled task frame outcome _ _ hk hop hopen hinner
    refine ⟨hbase.caller, hbase.peer, fun hanswered hne => ?_⟩
    rcases hinner.rejected hk hanswered hne with ⟨status, -, -, hsame⟩ | hexhausted
    · refine .inl ⟨(jr.runtime.input task).setResult status 0, ?_⟩
      show KernelRuntime.journaled jr' = .journaled { jr with runtime := _ }
      rw [← mapSlot_answered hk, ← hsame, ← he.journal_of_refused hread hsame]
    · exact .inr (.inl hexhausted)
  · have hrunning : jr.runtime.runningTask = .ok senderTaskId :=
      (runningTask_eq_ok h.sup.id0 h.sup.id1 h.sup.valid.one_running).mpr hr
    have htold : jr'.runtime.Told senderTaskId .effectUnavailable := by
      rw [hrt]
      rfl
    have hoccupied := (handleTrap_unavailable hk hrunning hcommit).ok hrun
      hjournal htold
    refine ⟨.inl ?_, .inr ⟨?_, .inr (hopen h.sup.profile (.inr happroved)), ?_⟩, fun _ _ => ?_⟩
    · show (jr.runtime.input senderTaskId).SameButResult (jr'.runtime.input senderTaskId)
      rw [hrt]
      rfl
    · show (jr.runtime.input receiverTaskId).SameButResult (jr'.runtime.input receiverTaskId)
      rw [hrt]
      rfl
    · show jr'.runtime.task1.state = .ready
      rw [hrt]
      rfl
    · exact .inr (.inr ⟨rfl, ⟨rfl, hcommit, happroved, hoccupied⟩, htold⟩)

/-- Every trap of the running task. -/
theorem of_handled {k k' : KernelRuntime} (h : KernelInv kind k) (hr : k.runtime.Running task)
    (hroot : root ≠ 0)
    (hhandle : (KernelRuntime.handleTrap task).run (k.captured task root frame) =
      (.ok outcome, k')) :
    TrapRegisters kind task frame (k.captured task root frame) k' := by
  have hk := hr.known
  have hop : ∀ {rt : Runtime}, (rt.captured task root frame).operation task = frame.operation :=
    captured_operation hk
  have hopen := (@KernelInv.captured kind k task root frame h hr hroot).blocked_of_open
  -- the call has one result only, and its effect is known
  cases h with
  | @cooperative rt inv =>
    have hinv : CoopInv (rt.captured task root frame) := inv.captured hr hroot
    obtain ⟨outcome', rt', he, hrun⟩ := hinv.answers hr.captured
    obtain ⟨hresult, rfl⟩ := Prod.mk.inj ((run_call_base hrun).symm.trans hhandle)
    exact of_effect hk hop hopen he
  | @supervised rt inv =>
    have hinv : SupInv (rt.captured task root frame) := inv.captured hr hroot
    obtain ⟨outcome', rt', he, hrun⟩ := hinv.answers hr.captured
    obtain ⟨hresult, rfl⟩ := Prod.mk.inj ((run_call_base hrun).symm.trans hhandle)
    exact of_effect hk hop hopen he
  | @journaled jr inv =>
    have hinv : JInv { jr with runtime := jr.runtime.captured task root frame } :=
      inv.captured hr hroot
    by_cases hread : frame.ReadsJournal
    · obtain ⟨operation, hoperation, hreads⟩ := hread.exists_operation
      have hrun := run_handleTrap_read hinv hr.captured (hop.trans hoperation)
        hreads
      obtain ⟨-, rfl⟩ := Prod.mk.inj ((run_call_journaled hrun).symm.trans hhandle)
      exact of_read hk hread _
    · obtain ⟨outcome', jr', he, hrun⟩ := journaled_answers hinv hr.captured
      obtain ⟨-, rfl⟩ := Prod.mk.inj ((run_call_journaled hrun).symm.trans hhandle)
      unfold TrapFrame.ReadsJournal at hread
      rw [not_or, ← @hop jr.runtime] at hread
      exact of_journaled hinv hr.captured hop hread hrun he

end TrapRegisters

/-! ## Until the task runs again -/

theorem eq_peerOf {t task : UInt64} (ht : KnownTask t) (hk : KnownTask task) (hne : task ≠ t) :
    t = peerOf task := by
  rcases hk with rfl | rfl
  · exact ht.resolve_left fun h => hne h.symm
  · exact ht.resolve_right fun h => hne h.symm

theorem TeardownBegun.registers {rt rt' : Runtime} {task t : UInt64} (ht : KnownTask t)
    (he : TeardownBegun rt task rt') : (rt.input t).SameButResult (rt'.input t) := by
  cases he with
  | sender | senderWakes | receiver | supervisor | supervisorWakes | workload =>
    rcases ht with rfl | rfl <;> rfl

theorem JournaledBegun.registers {jr jr' : JournaledRuntime} {task t : UInt64} (ht : KnownTask t)
    (he : JournaledBegun jr task jr') :
    (jr.runtime.input t).SameButResult (jr'.runtime.input t) := by
  cases he with
  | quiet inner => exact inner.registers ht
  | terminal inner =>
    have hinner := inner.registers ht
    rcases ht with rfl | rfl <;> exact hinner

theorem TeardownCompleted.registers {rt rt' : Runtime} {task : UInt64} {next : Option UInt64}
    (hk : KnownTask task) (he : TeardownCompleted rt task next rt') :
    rt'.input (peerOf task) = rt.input (peerOf task) := by
  have hburied : (rt.buried task).input (peerOf task) = rt.input (peerOf task) :=
    congrArg TaskSlot.context (slotOf_buried_peer hk)
  cases he with
  | finished => exact hburied
  | handedOver ready =>
    rw [input_mapSlot (peerOf_known hk)]
    exact hburied

namespace KernelInv

variable {kind : KernelRuntimeKind} {k k' : KernelRuntime} {t : UInt64}

/-- Nobody but the task itself writes more than a result into its registers. -/
theorem registers_step {e : KernelEvent} (h : KernelInv kind k) (hs : KernelStep k e k')
    (ht : KnownTask t) (hnot : ¬ e.Replaces t) :
    (k.runtime.input t).SameButOutput (k'.runtime.input t) := by
  have he := h.step hs
  cases e with
  | trap task frame outcome before after =>
    obtain ⟨hr, root, hroot, -, -, hhandle⟩ := h.trap_step hs
    obtain rfl := eq_peerOf ht hr.known hnot
    have hcaptured : (k.captured task root frame).runtime.input (peerOf task) =
        k.runtime.input (peerOf task) := by
      rw [k.runtime_captured]
      exact input_mapSlot_peer hr.known
    rw [← hcaptured]
    rcases (TrapRegisters.of_handled h hr hroot hhandle).peer with hsame | ⟨hresult, -⟩
    · rw [hsame]
      exact (TaskContext.SameButResult.refl _).output
    · exact hresult.output
  | beginTeardown task before after =>
    cases he with
    | begun exited live effect => exact (effect.registers ht).output
    | journaledBegun exited live effect => exact (effect.registers ht).output
  | completeTeardown task next before after =>
    cases he with
    | completed exited closing effect | journaledCompleted exited closing effect =>
      obtain rfl := eq_peerOf ht exited.known hnot
      show TaskContext.SameButOutput _ (Runtime.input after (peerOf task))
      rw [effect.registers exited.known]
      exact (TaskContext.SameButResult.refl _).output
  | finishReclamation =>
    cases he with
    | reclaimed => exact (TaskContext.SameButResult.refl _).output

theorem registers_steps {later : List KernelEvent} (h : KernelInv kind k)
    (hs : Steps (kernelSystem kind) k later k') (ht : KnownTask t)
    (hnot : ∀ e ∈ later, ¬ e.Replaces t) :
    (k.runtime.input t).SameButOutput (k'.runtime.input t) := by
  induction hs with
  | nil => exact (TaskContext.SameButResult.refl _).output
  | cons hstep _ ih =>
    have hfirst := h.registers_step hstep ht (hnot _ List.mem_cons_self)
    exact hfirst.trans (ih (h.effect (h.step hstep)) fun e he => hnot e (List.mem_cons_of_mem _ he))

end KernelInv

/-- A trap, in any profile and after any run, writes the caller's result registers and those of a
peer that it wakes. Registers that the kernel would resume stay so until the task has run, and a
rejected operation changes nothing else, but for the two that close an open request. -/
theorem trap_frame_condition {kind : KernelRuntimeKind} {history : List KernelEvent}
    {k : KernelRuntime} (hrun : Run (kernelSystem kind) history k) {task gen root : UInt64}
    (hrunning : k.runningTask = .ok task) (hgen : k.generation task = .ok gen)
    (hroot : root ≠ 0) (frame : TrapFrame) :
    ∃ k₁ outcome k',
      (KernelRuntime.captureTrap task frame root gen).run k = (.ok (), k₁) ∧
      (KernelRuntime.handleTrap task).run k₁ = (.ok outcome, k') ∧
      TrapKeeps kind task frame k₁ k' := by
  have h := KernelInv.run hrun
  have hr := h.running_iff.mp hrunning
  obtain rfl : (k.runtime.slotOf task).generation = gen := by
    rw [KernelRuntime.generation, Runtime.generation, slot_of_known hr.known] at hgen
    exact Except.ok.inj hgen
  obtain ⟨outcome, k', hhandle, he⟩ := h.answers frame hr hroot
  have hkept := TrapRegisters.of_handled h hr hroot hhandle
  refine ⟨_, outcome, k', run_captureTrap hr, hhandle, ⟨hkept, ?_⟩⟩
  intro t expectedTask expectedGeneration expectedRoot policy ht hok later k'' hsteps hnot
  have hlater := (h.effect he).registers_steps hsteps ht hnot
  have htrap : ((k.captured task root frame).runtime.input t).SameButOutput
      (k'.runtime.input t) := by
    by_cases heq : task = t
    · subst heq
      exact hkept.caller.elim TaskContext.SameButResult.output And.left
    · obtain rfl := eq_peerOf ht hr.known heq
      rcases hkept.peer with hsame | ⟨hresult, -⟩
      · rw [hsame]
        exact (TaskContext.SameButResult.refl _).output
      · exact hresult.output
  rw [(htrap.trans hlater).validate, hok]

/-- The supervisor waits to decide a request, and closes a handle that it does not have. -/
theorem trap_frame_condition_supervisor :
    ∃ events k k₁ outcome k', Run (kernelSystem .journaled) events k ∧
      (KernelRuntime.captureTrap senderTaskId (.request 5 77 0 0) 4096 supervisorGeneration).run k =
        (.ok (), k₁) ∧
      (KernelRuntime.handleTrap senderTaskId).run k₁ = (.ok outcome, k') ∧
      TrapKeeps .journaled senderTaskId (.request 5 77 0 0) k₁ k' := by
  have hexec : ∃ r ∈ KernelRuntime.execute .journaled (.start senderTaskId supervisorGeneration)
      (.start receiverTaskId workloadGeneration)
      [.request 6 16 1 0, .request 0 0 0 0, .request 7 16 1 99],
      r.2.runningTask = .ok senderTaskId ∧
        r.2.generation senderTaskId = .ok supervisorGeneration := by
    decide +kernel
  obtain ⟨⟨events, k⟩, hmem, hrunning, hgen⟩ := hexec
  have hrun := execute_run hmem
  obtain ⟨k₁, outcome, k', hkeeps⟩ := trap_frame_condition hrun hrunning hgen
    (show (4096 : UInt64) ≠ 0 by decide) (.request 5 77 0 0)
  exact ⟨events, k, k₁, outcome, k', hrun, hkeeps⟩

end MakopaVerified.TaskRuntime
