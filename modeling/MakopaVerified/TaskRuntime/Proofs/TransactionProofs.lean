import MakopaVerified.TaskRuntime.Proofs.KernelProofs

/-!
# Journaled calls as transactions

What the calls of the journaled runtime do on every state that passes `validate`, reachable or not.
Nearly every error exit puts the whole runtime back. The one that does not is the commit of an
approved request on an occupied effect: it steps the broker after the inner runtime has answered,
and two of its exits return without taking either back.
-/

namespace MakopaVerified.TaskRuntime

open Foundation Method TaskRuntime.Runtime JournaledRuntime

namespace JournaledRuntime

/-- The call returns a value in a state that passes the check, or it fails and changes nothing. -/
def Transactional {α : Type} (m : Method JournaledRuntime RuntimeError α)
    (jr : JournaledRuntime) : Prop :=
  m.Atomic jr jr fun _ jr' => jr'.validate = .ok ()

/-- The running task commits the approved request while the effect is occupied, and either the
epoch cannot be counted on or the queue already holds the workload's id. -/
def StrandedCommit (jr : JournaledRuntime) (task : UInt64) : Prop :=
  jr.runtime.runningTask = .ok task ∧ jr.runtime.operation task = some .commitEffect ∧
    jr.runtime.commitStatus task (jr.runtime.input task).rdi (jr.runtime.input task).rsi
      (jr.runtime.input task).rdx = some .effectUnavailable ∧
    (jr.runtime.broker.decisionEpoch = u64Max ∨
      jr.runtime.queue.contains receiverTaskId = true)

end JournaledRuntime

/-! ## Registers are none of the check's business -/

section Registers

variable {rt : Runtime} {task : UInt64} {c : TaskContext}

/-- Registers that keep the identity of the task and its address space. -/
def SameIdentity (c c' : TaskContext) : Prop :=
  c'.taskId = c.taskId ∧ c'.generation = c.generation ∧ c'.root = c.root

theorem SlotOk.withIdentity {q : RunQueue} {s : TaskSlot} (h : SlotOk q s)
    (hc : SameIdentity s.context c) : SlotOk q (s.withContext c) := by
  obtain ⟨h1, h2, h3⟩ := hc
  refine h.withContext ⟨fun hd => ?_, fun hd => ?_⟩
  · rw [h1, h2, h3]
    exact h.contextOk.1 hd
  · rw [h1, h2, h3]
    exact h.contextOk.2 hd

theorem Valid.withIdentity (h : Valid rt) (hk : KnownTask task)
    (hc : SameIdentity (rt.input task) c) :
    Valid (mapSlot task (TaskSlot.withContext c) rt) := by
  rcases hk with rfl | rfl
  · rw [mapSlot_sender]
    exact
      { h.toSlotsOk with
        slot0 := h.slot0.withIdentity hc
        cooperative := fun hp => { h.cooperative hp with }
        supervised := fun hp => { h.supervised hp with } }
  · rw [mapSlot_receiver]
    exact
      { h.toSlotsOk with
        slot1 := h.slot1.withIdentity hc
        cooperative := fun hp => { h.cooperative hp with }
        supervised := fun hp => { h.supervised hp with } }

theorem JournaledRuntime.JValid.withIdentity {jr : JournaledRuntime} (h : jr.JValid)
    (hk : KnownTask task) (hc : SameIdentity (jr.runtime.input task) c) :
    ({ jr with
        runtime := mapSlot task (TaskSlot.withContext c) jr.runtime } :
      JournaledRuntime).JValid := by
  have hruntime := h.runtime.withIdentity hk hc
  rcases hk with rfl | rfl
  · rw [mapSlot_sender] at hruntime ⊢
    exact { h with runtime := hruntime }
  · rw [mapSlot_receiver] at hruntime ⊢
    exact { h with runtime := hruntime }

end Registers

/-! ## What the inner runtime does before the journal is written -/

namespace Runtime

variable {rt : Runtime} {task : UInt64}

/-- An answer is all that `answerChecked` leaves, whether its check passes or not. -/
theorem answerChecked_ends (hk : KnownTask task) {status : TrapStatus} {value : UInt64}
    {Q : TrapOutcome → Runtime → Prop}
    (hQ : ∀ o, Q o (mapSlot task (TaskSlot.answered status value) rt)) :
    (answerChecked task status value).Ends rt Q fun _ _ => True := by
  refine .bind (.of_ok (run_setResult hk status value) ?_)
  exact .bind (.query (fun _ _ => .pure (hQ _)) fun _ _ => trivial)

theorem input_answered (hk : KnownTask task) (status : TrapStatus) (value : UInt64) :
    ((mapSlot task (TaskSlot.answered status value) rt).input task).rax = status.code := by
  rcases hk with rfl | rfl <;> rfl

/-- Waking the workload does not touch the broker. -/
theorem wakeWorkload_ends (status : TrapStatus) (value : UInt64) :
    (wakeWorkload status value).Ends rt (fun _ rt' => rt'.broker = rt.broker)
      fun _ _ => True := by
  refine .bind (.query (fun workload _ => ?_) fun _ _ => trivial)
  refine .ite (fun _ => .fail trivial) fun _ => ?_
  refine .bind (.of_ok (run_setResult (.inr rfl) status value) ?_)
  refine .bind (.of_ok (run_setState (.inr rfl) .ready) ?_)
  exact .onPart ⟨fun _ => rfl, fun _ => trivial⟩

/-- A decision that is answered `Ok` has left the broker in the state that its record needs. -/
theorem decideApproval_ends (hk : KnownTask task) (handle sequence decision : UInt64) :
    (decideApproval task handle sequence decision).Ends rt
      (fun _ rt' => (rt'.input task).rax = TrapStatus.ok.code →
        (decision = decisionApprove ∧ rt'.broker.state = .approved) ∨
          ((decision = decisionDeny ∨ decision = decisionExpire) ∧ rt'.broker.state = .empty))
      fun _ _ => True := by
  unfold decideApproval
  refine .bind (.self ?_)
  cases hs : rt.decideStatus task handle sequence decision with
  | some status =>
    refine answerChecked_ends hk fun _ hok => ?_
    rw [input_answered hk] at hok
    exact absurd (TrapStatus.code_injective hok) (decideStatus_some hk _ hs).1
  | none =>
    -- a broker whose epochs have run out answers `BrokerUnavailable`
    have hexhaust : (exhaustBroker task).Ends rt
        (fun _ rt' => (rt'.input task).rax = TrapStatus.ok.code →
          (decision = decisionApprove ∧ rt'.broker.state = .approved) ∨
            ((decision = decisionDeny ∨ decision = decisionExpire) ∧ rt'.broker.state = .empty))
        fun _ _ => True := by
      refine .bind ⟨fun _ => answerChecked_ends hk fun _ hok => ?_, fun _ => trivial⟩
      rw [input_answered hk] at hok
      exact absurd hok (by decide)
    dsimp only
    cases checkedAdd rt.broker.decisionEpoch 1 with
    | none => exact hexhaust
    | some nextEpoch =>
      refine .ite (fun _ => hexhaust) fun _ => .bind ?_
      have happlied : (applyDecision decision nextEpoch).Ends rt
          (fun _ rt' => (decision = decisionApprove ∧ rt'.broker.state = .approved) ∨
            ((decision = decisionDeny ∨ decision = decisionExpire) ∧ rt'.broker.state = .empty))
          fun _ _ => True := by
        refine .ite (fun happrove => .update (.inl ⟨happrove, rfl⟩)) fun _ => ?_
        refine .ite (fun hdeny => .bind (.update ?_)) fun _ => ?_
        · refine (wakeWorkload_ends _ _).mono (fun _ rt' hbroker => .inr ⟨.inl hdeny, ?_⟩)
            fun _ _ _ => trivial
          rw [hbroker]
          rfl
        · refine .ite (fun hexpire => .bind (.update ?_)) fun _ => .bind (.update (.fail trivial))
          refine (wakeWorkload_ends _ _).mono (fun _ rt' hbroker => .inr ⟨.inr hexpire, ?_⟩)
            fun _ _ _ => trivial
          rw [hbroker]
          rfl
      refine happlied.mono (fun _ rt' hdone => answerChecked_ends hk fun _ _ => ?_)
        fun _ _ _ => trivial
      rw [mapSlot_broker]
      exact hdone

theorem known_of_context {c : TaskContext} (h : rt.context task = .ok c) : KnownTask task := by
  unfold context at h
  cases hs : rt.slot task with
  | error e =>
    rw [hs] at h
    cases h
  | ok s => exact known_of_slot hs

/-- A task without a slot has no handle. -/
theorem known_of_unavailable {handle sequence argument : UInt64}
    (h : rt.commitStatus task handle sequence argument = some .effectUnavailable) :
    KnownTask task := by
  cases hs : rt.slot task with
  | ok s => exact known_of_slot hs
  | error e =>
    unfold commitStatus resolveObject at h
    rw [hs] at h
    dsimp only at h
    split at h <;> cases h

/-- A commit finds the effect occupied only when it names the approved request. -/
theorem commitStatus_unavailable (hk : KnownTask task) {handle sequence argument : UInt64}
    (h : rt.commitStatus task handle sequence argument = some .effectUnavailable) :
    rt.profile = .supervised ∧ rt.broker.state = .approved ∧ rt.effect.occupied = true := by
  unfold commitStatus at h
  split at h
  · cases h
  · rename_i hp
    split at h
    · rename_i status hres
      obtain rfl := Option.some.inj h
      exact absurd (resolveObject_error hk hres) (by decide)
    · split at h
      · cases h
      · rename_i hmatch
        rw [not_or, not_not] at hmatch
        refine ⟨not_not.mp hp, hmatch.1, ?_⟩
        split at h
        · assumption
        · split at h <;> cases h

/-- A commit that leaves the request approved and is answered `EffectUnavailable` has met an
occupied effect. -/
theorem commitEffect_ends (hk : KnownTask task) (handle sequence argument : UInt64) :
    (commitEffect task handle sequence argument).Ends rt
      (fun _ rt' => rt'.broker.state = .approved →
        (rt'.input task).rax = TrapStatus.effectUnavailable.code →
        rt.commitStatus task handle sequence argument = some .effectUnavailable ∧
          rt' = mapSlot task (TaskSlot.answered .effectUnavailable 0) rt)
      fun _ _ => True := by
  unfold commitEffect
  refine .bind (.self ?_)
  cases rt.commitStatus task handle sequence argument with
  | some status =>
    refine answerChecked_ends hk fun _ _ hrax => ?_
    rw [input_answered hk] at hrax
    obtain rfl := TrapStatus.code_injective hrax
    exact ⟨rfl, rfl⟩
  | none =>
    dsimp only
    cases checkedAdd rt.broker.decisionEpoch 1 with
    | none => exact .fail trivial
    | some nextEpoch =>
      refine .ite (fun _ => ?_) fun _ => .bind (.update (.bind ?_))
      · refine .of_ok (run_answer hk .approvalExpired 0) fun _ hrax => ?_
        rw [input_answered hk] at hrax
        exact absurd hrax (by decide)
      · refine (wakeWorkload_ends _ _).mono (fun _ rt' hbroker => ?_) fun _ _ _ => trivial
        refine answerChecked_ends hk fun _ happroved _ => ?_
        rw [mapSlot_broker, hbroker] at happroved
        cases happroved

/-- The inner runtime answers a commit on an occupied effect and leaves the rest alone. -/
theorem run_handleTrap_unavailable (hk : KnownTask task) (hv : Valid rt)
    (hrun : rt.runningTask = .ok task) (hop : rt.operation task = some .commitEffect)
    (hstatus : rt.commitStatus task (rt.input task).rdi (rt.input task).rsi
      (rt.input task).rdx = some .effectUnavailable) :
    (handleTrap task).run rt =
      (.ok (.resume task), mapSlot task (TaskSlot.answered .effectUnavailable 0) rt) := by
  have hv' : (mapSlot task (TaskSlot.answered .effectUnavailable 0) rt).validate = .ok () := by
    have hvalid := hv.withIdentity hk
      (c := (rt.input task).setResult .effectUnavailable 0) ⟨rfl, rfl, rfl⟩
    rw [validate_eq_ok]
    rcases hk with rfl | rfl <;> exact hvalid
  unfold handleTrap
  rw [run_restoring_ok]
  unfold handleTrapInner
  rw [run_bind, run_query, hrun]
  simp only [ne_eq, not_true_eq_false, if_false]
  rw [run_bind, run_query, context_of_known hk]
  dsimp only
  rw [show TrapOperation.parse (rt.slotOf task).context.rax = _ from hop]
  show (commitEffect task _ _ _).run rt = _
  unfold commitEffect
  rw [run_self_bind]
  rw [show rt.commitStatus task (rt.slotOf task).context.rdi (rt.slotOf task).context.rsi
    (rt.slotOf task).context.rdx = _ from hstatus]
  exact run_answerChecked hk hv'

/-- A trap does what its operation does. -/
theorem handleTrap_ends (hk : KnownTask task) (hrun : rt.runningTask = .ok task)
    {op : TrapOperation} (hop : rt.operation task = some op) {Q : TrapOutcome → Runtime → Prop}
    (h : (perform task (rt.input task) op).Ends rt Q fun _ _ => True) :
    (handleTrap task).Ends rt Q fun _ _ => True := by
  refine .restoring (.bind (.of_ok (by rw [run_query, hrun]) ?_))
  refine .ite (fun hne => absurd rfl hne) fun _ => ?_
  refine .bind (.of_ok (by rw [run_query, context_of_known hk]) ?_)
  rw [show TrapOperation.parse (rt.slotOf task).context.rax = some op from hop]
  exact h

end Runtime

/-! ## The journal's part of a trap -/

namespace JournaledRuntime

variable {before jr : JournaledRuntime} {task : UInt64} {outcome : TrapOutcome}

theorem validateOrRestore_atomic :
    (validateOrRestore before).Atomic before jr fun _ jr' => jr'.validate = .ok () := by
  rcases run_validateOrRestore_cases before jr with ⟨hv, hrun⟩ | hrun
  · exact .of_ok hrun hv
  · exact .of_error hrun rfl

theorem finishTrap_atomic :
    (finishTrap before outcome).Atomic before jr fun _ jr' => jr'.validate = .ok () :=
  .bind (validateOrRestore_atomic.mono (fun _ _ hv => .pure hv) fun _ _ he => he)

theorem onJournal_ends {α : Type} {m : Method EffectJournal EffectJournalError α}
    {Q : Except EffectJournalError α → JournaledRuntime → Prop}
    {E : RuntimeError → JournaledRuntime → Prop}
    (h : ∀ r j, Q r { jr with journal := j }) : (onJournal m).Ends jr Q E :=
  .onPart (.attempt ⟨fun _ => h _ _, fun _ => h _ _⟩)

theorem appendOrRestore_atomic {record : EffectRecord} {release : Bool} :
    (appendOrRestore before record release).Atomic before jr fun _ _ => True := by
  refine .bind (onJournal_ends fun r j => ?_)
  cases r with
  | ok u => exact .pure trivial
  | error e => exact .bind (.update (.fail rfl))

/-- An answer does not break the check. -/
theorem validate_answered (hv : jr.validate = .ok ()) (hk : KnownTask task) (status : TrapStatus)
    (value : UInt64) :
    ({ jr with runtime := mapSlot task (TaskSlot.answered status value) jr.runtime } :
      JournaledRuntime).validate = .ok () := by
  have hvalid := (validate_eq_ok.mp hv).withIdentity hk
    (c := (jr.runtime.input task).setResult status value) ⟨rfl, rfl, rfl⟩
  rw [validate_eq_ok]
  rcases hk with rfl | rfl <;> exact hvalid

/-- The caller is answered on the state before the trap. -/
theorem answerBefore_atomic (hv : before.validate = .ok ()) (hk : KnownTask task)
    (status : TrapStatus) :
    (do
      onRuntime (Runtime.setResult task status 0)
      query validate
      pure (.resume task) : Method JournaledRuntime RuntimeError TrapOutcome).Atomic before before
      fun _ jr' => jr'.validate = .ok () := by
  have hv' := validate_answered hv hk status 0
  refine .bind (.of_ok (run_onRuntime before (run_setResult hk status 0)) ?_)
  exact .bind (.of_ok (by rw [run_query, hv']) (.pure hv'))

theorem rollbackSubmit_atomic (hv : before.validate = .ok ()) (hk : KnownTask task)
    (error : EffectJournalError) :
    (rollbackSubmit before task error).Atomic before jr fun _ jr' => jr'.validate = .ok () := by
  refine .bind (.update ?_)
  cases error with
  | full | unavailable => exact answerBefore_atomic hv hk _
  | invalidRecord | invariant => exact .fail rfl

theorem journalSubmit_atomic (hv : before.validate = .ok ()) (hk : KnownTask task) :
    (journalSubmit before task outcome).Atomic before jr fun _ jr' => jr'.validate = .ok () := by
  refine .ite (fun _ => .bind (.update (answerBefore_atomic hv hk _))) fun _ => ?_
  refine .bind (.self (.bind (onJournal_ends fun r j => ?_)))
  cases r with
  | ok u => exact finishTrap_atomic
  | error e => exact rollbackSubmit_atomic hv hk e

theorem journalDecide_atomic {decision : UInt64}
    (h : (decision = decisionApprove ∧ jr.runtime.broker.state = .approved) ∨
      ((decision = decisionDeny ∨ decision = decisionExpire) ∧
        jr.runtime.broker.state = .empty)) :
    (journalDecide before decision outcome).Atomic before jr
      fun _ jr' => jr'.validate = .ok () := by
  refine .bind (.self ?_)
  cases hd : decisionRecord before jr decision with
  | some record =>
    exact .bind (appendOrRestore_atomic.mono (fun _ _ _ => finishTrap_atomic) fun _ _ he => he)
  | none =>
    exfalso
    unfold decisionRecord at hd
    rcases h with ⟨happrove, hs⟩ | ⟨hdeny | hexpire, hs⟩
    · rw [if_pos ⟨happrove, hs⟩] at hd
      cases hd
    · rw [if_neg fun ha => by rw [hs] at ha; exact ApprovalBrokerState.noConfusion ha.2,
        if_pos ⟨hdeny, hs⟩] at hd
      cases hd
    · rw [if_neg fun ha => by rw [hs] at ha; exact ApprovalBrokerState.noConfusion ha.2,
        if_neg fun ha => by rw [hexpire] at ha; exact absurd ha.1 (by decide),
        if_pos ⟨hexpire, hs⟩] at hd
      cases hd

theorem journalCommit_atomic :
    (journalCommit before outcome).Atomic before jr fun _ jr' => jr'.validate = .ok () :=
  .bind (.self (.bind
    (appendOrRestore_atomic.mono (fun _ _ _ => finishTrap_atomic) fun _ _ he => he)))

/-- The workload can be woken when the queue has room for it. -/
theorem wakeWorkload_succeeds {rt : Runtime} (hqueue : QueueOk rt.queue)
    (hb : rt.task1.state = .blockedApproval)
    (hfree : rt.queue.contains receiverTaskId = false) (status : TrapStatus) (value : UInt64) :
    ∃ rt', (Runtime.wakeWorkload status value).run rt = (.ok (), rt') := by
  obtain ⟨q, hpush⟩ : ∃ q, (RunQueue.push receiverTaskId).run rt.queue = (.ok (), q) := by
    rcases hqueue.without_receiver hfree with hq | hq
    · rw [hq]
      exact ⟨_, RunQueue.run_push_nil _⟩
    · rw [hq]
      exact ⟨_, RunQueue.run_push_singleton (by decide)⟩
  unfold Runtime.wakeWorkload
  rw [run_bind, run_query, slot_of_known (.inr rfl)]
  simp only [slotOf_receiver, hb, ne_eq, not_true_eq_false, if_false]
  rw [run_bind_ok (run_setResult (.inr rfl) _ _),
    run_bind_ok (run_setState (.inr rfl) _)]
  exact ⟨_, run_onQueue_ok (by simpa using hpush)⟩

/-- The failed commit is recorded when the epoch counts on and the workload can be woken. -/
theorem journalFailedCommit_atomic (hk : KnownTask task)
    (hqueue : QueueOk jr.runtime.queue) (hb : jr.runtime.task1.state = .blockedApproval)
    (hepoch : jr.runtime.broker.decisionEpoch ≠ u64Max)
    (hfree : jr.runtime.queue.contains receiverTaskId = false) :
    (journalFailedCommit before task outcome).Atomic before jr
      fun _ jr' => jr'.validate = .ok () := by
  refine .bind (.self ?_)
  rw [checkedAdd_one hepoch]
  obtain ⟨rt₁, hwake⟩ := @wakeWorkload_succeeds
    { jr.runtime with
      broker := jr.runtime.broker.conclude (jr.runtime.broker.decisionEpoch + 1) }
    hqueue hb hfree .effectUnavailable 0
  refine .bind (.onPart (.update (.bind (.of_ok (run_onRuntime _ hwake) ?_))))
  refine .bind (.of_ok (run_onRuntime _ (run_setResult hk .effectUnavailable 0)) ?_)
  exact .bind (appendOrRestore_atomic.mono (fun _ _ _ => finishTrap_atomic) fun _ _ he => he)

/-- Otherwise it stops halfway: the inner runtime has answered, and the broker may have moved. -/
theorem journalFailedCommit_strands
    (h : jr.runtime.broker.decisionEpoch = u64Max ∨
      jr.runtime.queue.contains receiverTaskId = true) :
    (journalFailedCommit before task outcome).Ends jr (fun _ _ => False)
      fun _ jr' => jr' = jr ∨ jr'.runtime.broker.state = .empty := by
  refine .bind (.self ?_)
  by_cases hmax : jr.runtime.broker.decisionEpoch = u64Max
  · rw [checkedAdd_one_none.mpr hmax]
    exact .fail (.inl rfl)
  · have hin := h.resolve_left hmax
    rw [checkedAdd_one hmax]
    refine .bind (.onPart (.update (.bind (.onPart ?_))))
    refine .bind (.query (fun _ _ => ?_) fun _ _ => .inr rfl)
    refine .ite (fun _ => .fail (.inr rfl)) fun _ => ?_
    refine .bind (.of_ok (run_setResult (.inr rfl) _ _) ?_)
    refine .bind (.of_ok (run_setState (.inr rfl) _) ?_)
    refine .onPart (.bind (.self (.ite (fun _ => .fail (.inr rfl)) fun hout => ?_)))
    exact absurd (by simpa using hin) hout

/-! ## Whole traps -/

theorem handleJournalRead_atomic (hv : jr.validate = .ok ()) (hk : KnownTask task)
    {operation : TrapOperation}
    (hread : operation = .inspectEffectJournal ∨ operation = .readEffectRecord)
    (input : TaskContext) :
    (handleJournalRead task operation input).Atomic jr jr fun _ jr' => jr'.validate = .ok () := by
  have hwrites : ∀ status values, ({ jr with
      runtime := mapSlot task
        (TaskSlot.withContext (readContext (jr.runtime.input task) status values)) jr.runtime } :
      JournaledRuntime).validate = .ok () := fun status values =>
    validate_eq_ok.mpr ((validate_eq_ok.mp hv).withIdentity hk ⟨rfl, rfl, rfl⟩)
  -- the successful reads check the invariants once more
  have hchecked : ∀ status values, (do
      setJournalOutput task status values
      query validate
      pure (.resume task) : Method JournaledRuntime RuntimeError TrapOutcome).Atomic jr jr
      fun _ jr' => jr'.validate = .ok () := by
    intro status values
    have hv' := hwrites status values
    refine .bind (.of_ok (run_setJournalOutput hk status values) ?_)
    exact .bind (.of_ok (by rw [run_query, hv']) (.pure hv'))
  refine .bind (.self ?_)
  cases jr.journalReadStatus task operation input with
  | some status =>
    exact .bind (.of_ok (run_setJournalOutput hk status (0, 0, 0)) (.pure (hwrites _ _)))
  | none =>
    rcases hread with rfl | rfl
    · exact hchecked .ok _
    · dsimp only
      cases jr.journal.readTriplet input.rsi input.rdx with
      | error e => exact hchecked (journalStatus e) (0, 0, 0)
      | ok words => exact hchecked .ok words

/-- A trap that is not a read of the journal: the inner runtime first, then the journal. -/
theorem handleTrap_ends (hk : KnownTask task) (hrun : jr.runtime.runningTask = .ok task)
    (hread : jr.runtime.operation task ≠ some .inspectEffectJournal ∧
      jr.runtime.operation task ≠ some .readEffectRecord)
    {Q : TrapOutcome → JournaledRuntime → Prop} {E : RuntimeError → JournaledRuntime → Prop}
    (hfail : ∀ e rt', (Runtime.handleTrap task).run jr.runtime = (.error e, rt') → E e jr)
    (hrecord : ∀ outcome rt', (Runtime.handleTrap task).run jr.runtime = (.ok outcome, rt') →
      (recordTrap jr task (jr.runtime.input task) outcome).Ends { jr with runtime := rt' } Q E) :
    (handleTrap task).Ends jr Q E := by
  refine .bind (.of_ok (by rw [run_query, hrun]) ?_)
  refine .ite (fun hne => absurd rfl hne) fun _ => ?_
  refine .bind (.of_ok (by rw [run_query, context_of_known hk]) ?_)
  have hinner : (do
      let before ← self
      let outcome ← undoing (fun _ => before) (onRuntime (Runtime.handleTrap task))
      recordTrap before task (jr.runtime.input task) outcome :
      Method JournaledRuntime RuntimeError TrapOutcome).Ends jr Q E := by
    exact .bind (.self (.bind (.undoing (.onPart ⟨hrecord _ _, hfail _ _⟩))))
  rw [show TrapOperation.parse (jr.runtime.slotOf task).context.rax =
    jr.runtime.operation task from rfl]
  split
  · rename_i hop
    exact absurd hop hread.1
  · rename_i hop
    exact absurd hop hread.2
  · exact hinner

/-- The workload waits while its request is approved. -/
theorem blocked_of_unavailable (hv : jr.validate = .ok ()) (hk : KnownTask task)
    {handle sequence argument : UInt64}
    (h : jr.runtime.commitStatus task handle sequence argument = some .effectUnavailable) :
    jr.runtime.task1.state = .blockedApproval := by
  obtain ⟨hp, happroved, -⟩ := commitStatus_unavailable hk h
  have hbroker := ((validate_eq_ok.mp hv).runtime.supervised hp).broker_state
  unfold BrokerStateOk at hbroker
  rw [happroved] at hbroker
  exact hbroker.2.2.2.2

theorem recordTrap_atomic (hv : jr.validate = .ok ()) (hk : KnownTask task)
    (hrun : jr.runtime.runningTask = .ok task) (hfits : ¬ jr.StrandedCommit task) {rt' : Runtime}
    (hinner : (Runtime.handleTrap task).run jr.runtime = (.ok outcome, rt')) :
    (recordTrap jr task (jr.runtime.input task) outcome).Atomic jr { jr with runtime := rt' }
      fun _ jr' => jr'.validate = .ok () := by
  refine .bind (.self (.bind (.of_ok (by rw [run_query, context_of_known hk]) ?_)))
  rw [show TrapOperation.parse (jr.runtime.input task).rax = jr.runtime.operation task from rfl]
  split
  · exact .ite (fun _ => journalSubmit_atomic hv hk) fun _ => finishTrap_atomic
  · rename_i hop
    refine .ite (fun hok => journalDecide_atomic ?_) fun _ => finishTrap_atomic
    exact (Runtime.handleTrap_ends hk hrun hop (Runtime.decideApproval_ends hk _ _ _)).ok hinner hok.2
  · rename_i hop
    refine .ite (fun _ => journalCommit_atomic) fun _ => ?_
    refine .ite (fun hfailed => ?_) fun _ => finishTrap_atomic
    obtain ⟨hstatus, rfl⟩ := (Runtime.handleTrap_ends hk hrun hop
      (commitEffect_ends hk _ _ _)).ok hinner hfailed.2.1 hfailed.2.2
    have hqueue := (validate_eq_ok.mp hv).runtime.queue
    have hblocked := blocked_of_unavailable hv hk hstatus
    refine journalFailedCommit_atomic hk (by rwa [mapSlot_queue]) ?_ ?_ ?_
    · rcases hk with rfl | rfl <;> exact hblocked
    · rw [mapSlot_broker]
      exact fun hmax => hfits ⟨hrun, hop, hstatus, .inl hmax⟩
    · rw [mapSlot_queue, Bool.eq_false_iff]
      exact fun hin => hfits ⟨hrun, hop, hstatus, .inr hin⟩
  · exact finishTrap_atomic

theorem handleTrap_atomic (hv : jr.validate = .ok ()) (hfits : ¬ jr.StrandedCommit task) :
    Transactional (handleTrap task) jr := by
  cases hrun : jr.runtime.runningTask with
  | error e => exact .bind (.of_error (by rw [run_query, hrun]) rfl)
  | ok running =>
    by_cases heq : running = task
    · subst heq
      by_cases hk : KnownTask running
      · by_cases hread : jr.runtime.operation running ≠ some .inspectEffectJournal ∧
            jr.runtime.operation running ≠ some .readEffectRecord
        · exact handleTrap_ends hk hrun hread (fun _ _ _ => rfl) fun _ _ hinner =>
            recordTrap_atomic hv hk hrun hfits hinner
        · refine .bind (.of_ok (by rw [run_query, hrun]) ?_)
          refine .ite (fun hne => absurd rfl hne) fun _ => ?_
          refine .bind (.of_ok (by rw [run_query, context_of_known hk]) ?_)
          rw [show TrapOperation.parse (jr.runtime.slotOf running).context.rax =
            jr.runtime.operation running from rfl]
          split
          · exact handleJournalRead_atomic hv hk (.inl rfl) _
          · exact handleJournalRead_atomic hv hk (.inr rfl) _
          · rename_i hinspect hreadRecord
            exact absurd ⟨fun hop => hinspect hop, fun hop => hreadRecord hop⟩ hread
      · refine .bind (.of_ok (by rw [run_query, hrun]) ?_)
        refine .ite (fun hne => absurd rfl hne) fun _ => ?_
        refine .bind (.query (fun c hc => ?_) fun _ _ => rfl)
        exact absurd (known_of_context hc) hk
    · refine .bind (.of_ok (by rw [run_query, hrun]) ?_)
      exact .ite (fun _ => .fail rfl) fun hne => absurd heq hne

/-- A stranded commit fails, and the runtime is not what it was. -/
theorem handleTrap_strands (hv : jr.validate = .ok ()) (h : jr.StrandedCommit task) :
    ¬ Transactional (handleTrap task) jr := by
  obtain ⟨hrun, hop, hstatus, hstuck⟩ := h
  have hk := known_of_unavailable hstatus
  obtain ⟨hp, happroved, -⟩ := commitStatus_unavailable hk hstatus
  have hinner := run_handleTrap_unavailable hk (validate_eq_ok.mp hv).runtime hrun hop hstatus
  have hends : (handleTrap task).Ends jr (fun _ _ => False) fun _ jr' => jr' ≠ jr := by
    refine handleTrap_ends hk hrun (by rw [hop]; decide) (fun e rt' he => ?_) fun o rt' ho => ?_
    · rw [hinner] at he
      cases he
    · rw [hinner, Prod.mk.injEq] at ho
      obtain ⟨-, rfl⟩ := ho
      refine .bind (.self (.bind
        (.of_ok (by rw [run_query, context_of_known hk]) ?_)))
      rw [show TrapOperation.parse (jr.runtime.input task).rax = _ from hop]
      refine .ite (fun hcommit => ?_) fun _ => .ite (fun _ => ?_) fun hother => ?_
      · have hempty := hcommit.2.1
        rw [mapSlot_broker, happroved] at hempty
        cases hempty
      · refine (journalFailedCommit_strands ?_).mono (fun _ _ hf => hf) fun _ jr' hjr heq => ?_
        · rw [mapSlot_broker, mapSlot_queue]
          exact hstuck
        · rw [heq] at hjr
          rcases hjr with hsame | hempty
          · -- the operation that the caller asked for is overwritten by the status
            have hrax : (jr.runtime.input task).rax = _ :=
              (congrArg (fun j : JournaledRuntime => (j.runtime.input task).rax) hsame).trans
                (input_answered hk .effectUnavailable 0)
            rw [Runtime.operation, hrax] at hop
            cases hop
          · rw [happroved] at hempty
            cases hempty
      · refine absurd ⟨happroved, ?_, input_answered hk .effectUnavailable 0⟩ hother
        rw [mapSlot_broker]
        exact happroved
  intro hatomic
  rcases hr : (handleTrap task).run jr with ⟨_ | o, jr'⟩
  · exact hends.error hr (hatomic.error hr)
  · exact hends.ok hr

/-! ## Teardown -/

/-- A request is there only while it is pending or approved, so there is a record to close it. -/
theorem terminalRecord_of_present (hv : jr.validate = .ok ())
    (hp : jr.runtime.broker.requestPresent = true) : terminalRecord jr.runtime.broker ≠ none := by
  have hvalid := (validate_eq_ok.mp hv).runtime
  intro hnone
  cases hprofile : jr.runtime.profile with
  | cooperative =>
    rw [(hvalid.cooperative hprofile).broker_dead] at hp
    cases hp
  | supervised =>
    have hbroker := (hvalid.supervised hprofile).broker_state
    unfold BrokerStateOk at hbroker
    unfold terminalRecord at hnone
    cases hs : jr.runtime.broker.state with
    | building =>
      rw [hs] at hbroker
      exact hbroker
    | empty | closing | dead =>
      rw [hs] at hbroker
      exact nomatch hbroker.1.symm.trans hp
    | pending | approved =>
      rw [hs] at hnone
      cases hnone

theorem recordTeardown_atomic (hv : jr.validate = .ok ())
    (hp : jr.runtime.broker.requestPresent = true) :
    (recordTeardown jr).Atomic jr jr fun _ _ => True := by
  unfold recordTeardown
  cases checkedAdd jr.runtime.broker.decisionEpoch 1 with
  | none => exact .fail rfl
  | some terminalEpoch =>
    refine .bind (.onPart (.update ?_))
    cases hrecord : terminalRecord jr.runtime.broker with
    | none => exact absurd hrecord (terminalRecord_of_present hv hp)
    | some record => exact appendOrRestore_atomic

theorem sealJournal_atomic (hv : jr.validate = .ok ()) :
    (sealJournal jr).Atomic jr jr fun _ _ => True := by
  refine .ite (fun hp => .bind ((recordTeardown_atomic hv hp).mono (fun _ _ _ => ?_)
    fun _ _ he => he)) fun _ => ?_
  -- either way the journal is sealed next
  all_goals
    refine .bind (onJournal_ends fun r j => ?_)
    cases r with
    | ok u => exact .pure trivial
    | error e => exact .bind (.update (.fail rfl))

theorem beginTeardown_atomic (hv : jr.validate = .ok ()) :
    Transactional (beginTeardown task) jr := by
  refine .bind (.self (.bind (.query (fun slot _ => ?_) fun _ _ => rfl)))
  refine .ite (fun _ => .fail rfl) fun _ => ?_
  have hrest : ∀ jr₁, (do
      undoing (fun _ => jr) (onRuntime (Runtime.beginTeardown task))
      validateOrRestore jr : Method JournaledRuntime RuntimeError Unit).Atomic jr jr₁
      fun _ jr' => jr'.validate = .ok () := fun jr₁ =>
    .bind (.undoing ⟨fun _ => validateOrRestore_atomic, fun _ => rfl⟩)
  refine .ite (fun _ => .bind ?_) fun _ => hrest jr
  exact (sealJournal_atomic hv).mono (fun _ jr₁ _ => hrest jr₁) fun _ _ he => he

theorem completeTeardown_atomic : Transactional (completeTeardown task) jr := by
  refine .bind (.self (.bind (.undoing ⟨fun _ => ?_, fun _ => rfl⟩)))
  exact .bind (validateOrRestore_atomic.mono (fun _ _ hv => .pure hv) fun _ _ he => he)

theorem finishReclamation_atomic : Transactional finishReclamation jr := by
  refine .bind (.self (.ite (fun _ => .fail rfl) fun _ => ?_))
  exact .bind (.update validateOrRestore_atomic)

end JournaledRuntime

/-- The calls of the journaled runtime are transactions on every state that passes the check, but
for a commit of the approved request on an occupied effect that runs out of epochs or cannot queue
the workload. -/
theorem journaled_calls_atomic_iff (jr : JournaledRuntime) (hv : jr.validate = .ok ())
    (task : UInt64) :
    (JournaledRuntime.Transactional (JournaledRuntime.handleTrap task) jr ∧
      JournaledRuntime.Transactional (JournaledRuntime.beginTeardown task) jr ∧
      JournaledRuntime.Transactional (JournaledRuntime.completeTeardown task) jr ∧
      JournaledRuntime.Transactional JournaledRuntime.finishReclamation jr) ↔
      ¬ jr.StrandedCommit task := by
  constructor
  · intro h hstranded
    exact handleTrap_strands hv hstranded h.1
  · intro hfits
    exact ⟨handleTrap_atomic hv hfits, beginTeardown_atomic hv,
      completeTeardown_atomic, finishReclamation_atomic⟩

/-- Two requests of the workload are approved, the first is committed, and the supervisor is about
to commit the second on the effect that the first has filled, at a given epoch. -/
def JournaledRuntime.aboutToFail (epoch : UInt64) : Option JournaledRuntime :=
  match KernelRuntime.execute .journaled (.start senderTaskId supervisorGeneration)
    (.start receiverTaskId workloadGeneration)
    [.request 6 16 1 0, .request 0 0 0 0, .request 7 16 1 99, .request 9 17 1 decisionApprove,
      .request 10 18 1 99, .request 0 0 0 0, .request 7 16 1 7,
      .request 9 17 2 decisionApprove] with
  | some (_, .journaled jr) =>
    let rt := jr.runtime.captured senderTaskId 4096 (.request 10 18 2 7)
    some { jr with
      runtime := { rt with broker := { rt.broker with decisionEpoch := epoch } } }
  | _ => none

/-- At the last epoch the commit fails and leaves its caller with another `rax`. -/
theorem commit_at_last_epoch_strands :
    ∃ jr ∈ JournaledRuntime.aboutToFail u64Max, jr.validate = .ok () ∧
      ((JournaledRuntime.handleTrap senderTaskId).run jr).1 = .error .brokerInvariant ∧
      ((JournaledRuntime.handleTrap senderTaskId).run jr).2.runtime.task0.context.rax ≠
        jr.runtime.task0.context.rax := by
  decide +kernel

/-- At the epoch that the run has reached, the same commit is a transaction. -/
theorem commit_at_sixth_epoch_atomic :
    ∃ jr ∈ JournaledRuntime.aboutToFail 6, jr.validate = .ok () ∧
      JournaledRuntime.Transactional (JournaledRuntime.handleTrap senderTaskId) jr := by
  have hstate : ∃ jr ∈ JournaledRuntime.aboutToFail 6, jr.validate = .ok () ∧
      jr.runtime.broker.decisionEpoch ≠ u64Max ∧
      jr.runtime.queue.contains receiverTaskId = false := by
    decide +kernel
  obtain ⟨jr, hmem, hv, hepoch, hfree⟩ := hstate
  refine ⟨jr, hmem, hv, ((journaled_calls_atomic_iff jr hv senderTaskId).mpr ?_).1⟩
  rintro ⟨-, -, -, hmax | hin⟩
  · exact hepoch hmax
  · rw [hfree] at hin
    cases hin

end MakopaVerified.TaskRuntime
