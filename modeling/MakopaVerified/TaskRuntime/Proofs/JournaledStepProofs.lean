import MakopaVerified.TaskRuntime.Proofs.JournaledTrapProofs

/-!
# The journaled invariant is kept by traps

A trap that records nothing leaves the broker and its history alone; every other one appends the
record of the step that the broker has made.
-/

namespace MakopaVerified.TaskRuntime

open Foundation Method TaskRuntime.Runtime JournaledRuntime EffectJournal

/-! ## Tables -/

/-- What a trap does to the tables, as far as the journal can see it. -/
structure TablesKept (rt rt' : Runtime) : Prop where
  state0 : rt'.task0.capabilities.state = rt.task0.capabilities.state
  state1 : rt'.task1.capabilities.state = rt.task1.capabilities.state ∨
    rt.task1.capabilities.state = .building ∧ rt'.task1.capabilities.state = .live
  entries0 : (JournaledRuntime.journalEntries rt'.task0.capabilities).Sublist
    (JournaledRuntime.journalEntries rt.task0.capabilities)
  entries1 : (JournaledRuntime.journalEntries rt'.task1.capabilities).Sublist
    (JournaledRuntime.journalEntries rt.task1.capabilities)

namespace TablesKept

variable {rt rt' : Runtime}

theorem of_eq (h0 : rt'.task0.capabilities = rt.task0.capabilities)
    (h1 : rt'.task1.capabilities = rt.task1.capabilities) : TablesKept rt rt' where
  state0 := by rw [h0]
  state1 := .inl (by rw [h1])
  entries0 := by rw [h0]
  entries1 := by rw [h1]

theorem torn_iff (h : TablesKept rt rt') : rt'.Torn ↔ rt.Torn := by
  unfold Runtime.Torn
  rw [h.state0]
  rcases h.state1 with h1 | ⟨h1, h1'⟩
  · rw [h1]
  · rw [h1, h1']
    simp

end TablesKept

/-- A slot change that leaves the table alone. -/
theorem TablesKept.mapSlot {rt : Runtime} {task : UInt64} (hk : KnownTask task)
    {f : TaskSlot → TaskSlot} (hf : ∀ s, (f s).capabilities = s.capabilities) :
    TablesKept rt (mapSlot task f rt) := by
  rcases hk with rfl | rfl
  · exact .of_eq (hf _) rfl
  · exact .of_eq rfl (hf _)

/-- A slot change that replaces the table by one in the same state. -/
theorem TablesKept.mapSlot_table {rt : Runtime} {task : UInt64} (hk : KnownTask task)
    {f : TaskSlot → TaskSlot} {table : CapabilityTable}
    (hf : ∀ s, (f s).capabilities = table)
    (hstate : table.state = (rt.slotOf task).capabilities.state)
    (hentries : (JournaledRuntime.journalEntries table).Sublist
      (JournaledRuntime.journalEntries (rt.slotOf task).capabilities)) :
    TablesKept rt (Runtime.mapSlot task f rt) := by
  rcases hk with rfl | rfl
  · refine ⟨?_, .inl rfl, ?_, .refl _⟩
    · show (f rt.task0).capabilities.state = _
      rw [hf]
      exact hstate
    · show (JournaledRuntime.journalEntries (f rt.task0).capabilities).Sublist _
      rw [hf]
      exact hentries
  · refine ⟨rfl, .inl ?_, .refl _, ?_⟩
    · show (f rt.task1).capabilities.state = _
      rw [hf]
      exact hstate
    · show (JournaledRuntime.journalEntries (f rt.task1).capabilities).Sublist _
      rw [hf]
      exact hentries

theorem TrapEffect.tablesKept {rt rt' : Runtime} {task : UInt64} {outcome : TrapOutcome}
    (hk : KnownTask task) (he : TrapEffect rt task outcome rt') : TablesKept rt rt' := by
  cases he with
  | refused | kept | exited => exact .mapSlot hk fun _ => rfl
  | inspected => exact .mapSlot hk fun _ => rfl
  | yielded op other known waiting =>
    rcases hk with rfl | rfl
    · obtain rfl : _ = receiverTaskId := known.resolve_left other
      exact .of_eq rfl rfl
    · obtain rfl : _ = senderTaskId := known.resolve_right other
      exact .of_eq rfl rfl
  | stored | delivered | took | blocked | submitted | approved | concluded | exhausted
  | committed => exact .of_eq rfl rfl
  | duplicated op change =>
    refine .mapSlot_table hk (fun _ => rfl) ?_ (JournaledRuntime.duplicated_entries change)
    obtain ⟨-, source, i, entry, -, -, -, -, -, rfl⟩ := change
    rfl
  | closed op change =>
    refine .mapSlot_table hk (fun _ => rfl) ?_ (JournaledRuntime.closed_entries change)
    obtain ⟨-, i, -, rfl⟩ := change
    rfl
  | launched op supervisor supervised staged change =>
    refine ⟨rfl, .inr ⟨change.building, ?_⟩, .refl _, launched_entries change⟩
    obtain ⟨-, i, -, rfl⟩ := change
    rfl

namespace JInv

variable {jr : JournaledRuntime} {task : UInt64}

/-! ## Steps without and with a record -/

theorem not_dead (h : JInv jr) (hr : jr.runtime.Running task) : jr.journal.state ≠ .dead := by
  intro hd
  obtain ⟨h0, h1⟩ := h.dead_done hd
  rcases hr with ⟨-, hr⟩ | ⟨-, hr⟩
  · rw [h0] at hr
    cases hr
  · rw [h1] at hr
    cases hr

/-- A step that leaves the broker alone needs no record. -/
theorem unrecorded (h : JInv jr) (hr : jr.runtime.Running task) {rt' : Runtime}
    (hsup : SupInv rt') (hkept : TablesKept jr.runtime rt')
    (hbroker : rt'.broker = jr.runtime.broker) : JInv { jr with runtime := rt' } where
  sup := hsup
  journal := h.journal
  supervisor_entries := Nat.le_trans hkept.entries0.length_le h.supervisor_entries
  workload_entries := Nat.le_zero.mp (h.workload_entries ▸ hkept.entries1.length_le)
  entries_fixed entry he := h.entries_fixed entry (hkept.entries0.subset he)
  live_iff := by rw [hkept.torn_iff]; exact h.live_iff
  dead_done hd := absurd hd (h.not_dead hr)
  reserved := by rw [hbroker]; exact h.reserved
  history := by rw [hbroker]; exact h.history
  kernel_last := h.kernel_last

/-- A step of the broker comes with its record. -/
theorem recorded (h : JInv jr) (hlive : jr.journal.state = .live) {rt' : Runtime}
    (hsup : SupInv rt') (hkept : TablesKept jr.runtime rt') {record : EffectRecord}
    {reserved : Nat} (hfresh : EffectJournal.Fresh record)
    (hroom : jr.journal.committedRecordCount + 1 + reserved ≤ effectJournalRecordCount)
    (hreserved : reserved = JournaledRuntime.reservation rt'.broker.state)
    (hactor : record.actorTaskId ≠ 0)
    (hist : ∃ finished current, History rt'.broker
      (jr.journal.committed ++ [{ record with recordSequence := jr.journal.nextRecordSequence }])
      finished current) :
    JInv { runtime := rt', journal := EffectJournal.appended record reserved jr.journal } := by
  have hok := h.journal_ok hlive
  have hle : reserved ≤ 2 := by
    rw [hreserved]
    cases rt'.broker.state <;> decide
  have hcommitted := @EffectJournal.committed_appended jr.journal record (by omega) reserved
  exact
    { sup := hsup
      journal := .inr (hok.appended hlive hfresh hroom hle)
      supervisor_entries := Nat.le_trans hkept.entries0.length_le h.supervisor_entries
      workload_entries := Nat.le_zero.mp (h.workload_entries ▸ hkept.entries1.length_le)
      entries_fixed := fun entry he => h.entries_fixed entry (hkept.entries0.subset he)
      live_iff := by rw [hkept.torn_iff]; exact h.live_iff
      dead_done := fun hd => nomatch hlive.symm.trans hd
      reserved := hreserved
      history := by rw [hcommitted]; exact hist
      kernel_last := by
        rw [hcommitted]
        intro i hi hzero
        by_cases hlt : i < jr.journal.committed.length
        · rw [List.getElem_append_left hlt] at hzero
          have hsealed := (h.kernel_last i hlt hzero).2
          exact nomatch hlive.symm.trans hsealed
        · rw [List.getElem_append_right (Nat.le_of_not_lt hlt)] at hzero
          exact absurd (by simpa using hzero) hactor }

/-- Where the next record stands. -/
theorem next_position (h : JInv jr) (hlive : jr.journal.state = .live)
    (hd : jr.runtime.broker.state ≠ .dead) :
    jr.journal.nextRecordSequence.toNat = jr.journal.committed.length + 1 ∧
      (jr.runtime.broker.decisionEpoch + 1).toNat = jr.journal.committed.length + 2 := by
  rw [length_committed h.committed_le, toNat_add_one (h.epoch_ne_max hd),
    (h.epoch_small hd).1]
  exact ⟨(h.journal_ok hlive).next_toNat, rfl⟩

/-- An open request has room for the record of its next step. -/
theorem open_room (h : JInv jr)
    (ho : jr.runtime.broker.state = .pending ∨ jr.runtime.broker.state = .approved) :
    jr.journal.committedRecordCount + JournaledRuntime.reservation jr.runtime.broker.state ≤
        effectJournalRecordCount ∧
      1 ≤ JournaledRuntime.reservation jr.runtime.broker.state := by
  refine ⟨?_, ?_⟩
  · rw [← h.reserved]
    exact (h.journal_ok (h.live_of_open ho)).capacity
  · rcases ho with ho | ho <;> rw [ho] <;> decide

/-- The end of a request: any record but the first two, with a broker that is idle again. -/
theorem finished (h : JInv jr)
    (ho : jr.runtime.broker.state = .pending ∨ jr.runtime.broker.state = .approved)
    {rt' : Runtime} (hsup : SupInv rt') (hkept : TablesKept jr.runtime rt')
    (hbroker : rt'.broker = jr.runtime.broker.conclude (jr.runtime.broker.decisionEpoch + 1))
    {kind : EffectEventKind} {status : TrapStatus} {objectType : UInt32} {rights : UInt64}
    (hkind : History.soFar jr.runtime.broker.state ++ [kind] ∈ finishedLifecycles)
    (hperformed : ∀ sequence, ({ EffectRecord.event kind status
        (jr.runtime.broker.decisionEpoch + 1) senderTaskId supervisorGeneration
        jr.runtime.broker.request objectType rights with
      recordSequence := sequence } : EffectRecord).Performed kind) :
    JInv { runtime := rt'
           journal := EffectJournal.appended
            (EffectRecord.event kind status (jr.runtime.broker.decisionEpoch + 1) senderTaskId
              supervisorGeneration jr.runtime.broker.request objectType rights) 0 jr.journal } := by
  have hlive := h.live_of_open ho
  have hd : jr.runtime.broker.state ≠ .dead := by rcases ho with ho | ho <;> rw [ho] <;> decide
  obtain ⟨hroom, hpos⟩ := h.open_room ho
  obtain ⟨finished, current, hist⟩ := h.history
  refine h.recorded hlive hsup hkept (event_fresh ..) (by omega) ?_
    (show senderTaskId ≠ 0 by decide) ?_
  · rw [hbroker]
    rfl
  · refine ⟨_, _, hist.finish ho (h.epoch_ne_max hd) ?_ ?_ ?_ ?_ hkind
      ⟨rfl, hist.request (h.sup.present_of_open ho), hperformed _⟩ (h.next_position hlive hd)⟩
    · rw [hbroker]
      exact ⟨nofun, nofun⟩
    · rw [hbroker]
      rfl
    · rw [hbroker]
      exact ⟨rfl, rfl⟩
    · rw [hbroker]
      rfl

/-! ## Every effect -/

/-- A commit names the effect object of the request, which is the one there is. -/
theorem commit_record (h : JInv jr) (ha : jr.runtime.broker.state = .approved)
    (kind : EffectEventKind) (status : TrapStatus) (epoch : UInt64) {sequence : UInt64} :
    ({ EffectRecord.event kind status epoch senderTaskId supervisorGeneration
        jr.runtime.broker.request objectTypeTestEffect capabilityRightCommitEffect with
      recordSequence := sequence } : EffectRecord).ByCommit := by
  obtain ⟨-, -, -, -, -, hobject, hgen, -, -⟩ :=
    h.sup.toSupCore.sup.request (h.sup.present_of_open (.inr ha))
  exact ⟨rfl, rfl, rfl, hobject, hgen, rfl⟩

/-- The runtime half of a failed commit. -/
theorem failed_sup (h : JInv jr) (hr : jr.runtime.task0.state = .running)
    (ha : jr.runtime.broker.state = .approved) :
    SupInv { jr.runtime with
      task0 := jr.runtime.task0.answered .effectUnavailable 0
      task1 := jr.runtime.task1.woken .effectUnavailable 0
      broker := jr.runtime.broker.conclude (jr.runtime.broker.decisionEpoch + 1)
      queue := RunQueue.ofList [receiverTaskId] } := by
  have hcore := h.sup.toSupCore
  have hd : jr.runtime.broker.state ≠ .dead := by rw [ha]; decide
  have hsettled := hcore.settle hr (hcore.blocked_of_open (.inr ha))
    (hcore.sup.brokerOk.conclude hd (add_one_ne_zero (h.epoch_ne_max hd)))
    nofun hcore.sup.effectOk
  exact
    { (hsettled.answered (.inr rfl) .effectUnavailable 0).answered (.inl rfl)
        .effectUnavailable 0 with
      approved_epoch := nofun }

/-- Every effect of a trap keeps the invariant. -/
theorem effect (h : JInv jr) (hr : jr.runtime.Running task) {outcome : TrapOutcome}
    {jr' : JournaledRuntime} (he : JournaledEffect jr task outcome jr') : JInv jr' := by
  have hk := hr.known
  cases he with
  | unrecorded inner same =>
    exact h.unrecorded hr (h.sup.effect hr inner) (inner.tablesKept hk) same.1
  | read op fixed =>
    rename_i context
    obtain ⟨htask, hgen, hroot⟩ := fixed
    have hcore : SupCore (mapSlot task (TaskSlot.withContext context) jr.runtime) := by
      rcases hk with rfl | rfl
      · refine h.sup.toSupCore.withContexts ?_ h.sup.valid.slot1.contextOk
        unfold ContextOk
        rw [htask, hgen, hroot]
        exact h.sup.valid.slot0.contextOk
      · refine h.sup.toSupCore.withContexts h.sup.valid.slot0.contextOk ?_
        unfold ContextOk
        rw [htask, hgen, hroot]
        exact h.sup.valid.slot1.contextOk
    have hbroker : (mapSlot task (TaskSlot.withContext context) jr.runtime).broker =
        jr.runtime.broker := mapSlot_broker ..
    exact h.unrecorded hr
      { hcore with approved_epoch := by rw [hbroker]; exact h.sup.approved_epoch }
      (.mapSlot hk fun _ => rfl) hbroker
  | requested inner live op idle broker effect room =>
    have hd : jr.runtime.broker.state ≠ .dead := by rw [idle]; decide
    obtain ⟨finished, current, hist⟩ := h.history
    have hidle : jr.runtime.broker.Idle := by
      unfold ApprovalBroker.Idle
      rw [idle]
      decide
    have hnext := hist.sequence hd
    rw [if_pos (hist.current_nil hidle)] at hnext
    have hsmall : finished.length ≤ 16 := by
      have := hist.finished_length_le
      rw [length_committed h.committed_le] at this
      exact Nat.le_trans this h.committed_le
    have hseq : jr.runtime.broker.nextSequence ≠ u64Max := by
      intro hmax
      have hm : u64Max.toNat = 2 ^ 64 - 1 := rfl
      rw [hmax, hm] at hnext
      omega
    refine h.recorded live (h.sup.effect hr inner) (inner.tablesKept hk)
      (event_fresh ..) (by omega) ?_ (show receiverTaskId ≠ 0 by decide) ?_
    · rw [broker]
      rfl
    · rw [broker]
      refine ⟨_, _, hist.submit idle (h.epoch_ne_max hd) hseq ⟨rfl, hnext, ?_⟩
        (h.next_position live hd)⟩
      exact ⟨rfl, rfl, rfl, rfl, rfl, rfl⟩
  | approved inner live op pending broker effect =>
    have hd : jr.runtime.broker.state ≠ .dead := by rw [pending]; decide
    obtain ⟨finished, current, hist⟩ := h.history
    obtain ⟨hroom, -⟩ := h.open_room (.inl pending)
    rw [pending] at hroom
    refine h.recorded live (h.sup.effect hr inner) (inner.tablesKept hk)
      (event_fresh ..) hroom ?_ (show senderTaskId ≠ 0 by decide) ?_
    · rw [broker]
      rfl
    · rw [broker]
      refine ⟨_, _, hist.approve pending (h.epoch_ne_max hd)
        ⟨rfl, hist.request (h.sup.present_of_open (.inl pending)), ?_⟩ (h.next_position live hd)⟩
      exact ⟨rfl, rfl, rfl, rfl, rfl, rfl⟩
  | concluded inner live op open_request decision broker effect =>
    rw [congrArg ApprovalBroker.decisionEpoch broker]
    have hperformed : ∀ {r : EffectRecord}, r.ByDecision → ∀ {k : EffectEventKind},
        k = .denied ∨ k = .expired → r.Performed k := by
      rintro r hby k (rfl | rfl)
      · exact .inl hby
      · exact .inl hby
    rcases decision with ⟨rfl, hp⟩ | rfl
    · refine h.finished open_request (h.sup.effect hr inner) (inner.tablesKept hk) broker ?_ ?_
      · rw [hp]
        decide
      · exact fun _ => hperformed ⟨rfl, rfl, rfl, rfl, rfl, rfl⟩ (.inl rfl)
    · refine h.finished open_request (h.sup.effect hr inner) (inner.tablesKept hk) broker ?_ ?_
      · rcases open_request with hs | hs <;> rw [hs] <;> decide
      · exact fun _ => hperformed ⟨rfl, rfl, rfl, rfl, rfl, rfl⟩ (.inr rfl)
  | committed inner live op approval broker =>
    have hcommit := h.commit_record approval
    rw [congrArg ApprovalBroker.decisionEpoch broker]
    refine h.finished (.inr approval) (h.sup.effect hr inner) (inner.tablesKept hk) broker ?_ ?_
    · rw [approval]
      decide
    · exact fun _ => hcommit .completed .ok _
  | failed live supervisor op approval =>
    subst supervisor
    have hcommit := h.commit_record approval
    refine h.finished (.inr approval) (h.failed_sup hr.state approval) (.of_eq rfl rfl) rfl ?_ ?_
    · rw [approval]
      decide
    · exact fun _ => hcommit .failed .effectUnavailable _

end JInv

/-! ## The wrapper -/

namespace JournaledRuntime

variable {jr : JournaledRuntime} {task : UInt64} {outcome : TrapOutcome} {rt' : Runtime}

/-- A trap that the inner runtime has handled goes on to the journal. -/
theorem run_handleTrap_inner (h : JInv jr) (hr : jr.runtime.Running task)
    (hinspect : jr.runtime.operation task ≠ some .inspectEffectJournal)
    (hread : jr.runtime.operation task ≠ some .readEffectRecord)
    (hinner : (Runtime.handleTrap task).run jr.runtime = (.ok outcome, rt')) :
    (handleTrap task).run jr =
      (recordTrap jr task (jr.runtime.input task) outcome).run { jr with runtime := rt' } := by
  have hrunning : jr.runtime.runningTask = .ok task :=
    (runningTask_eq_ok h.sup.id0 h.sup.id1 h.sup.valid.one_running).mpr hr
  have hcall : (Method.undoing (fun _ => jr) (onRuntime (Runtime.handleTrap task))).run jr =
      (.ok outcome, { jr with runtime := rt' }) := by
    rw [run_undoing, run_onRuntime jr hinner]
  unfold handleTrap
  rw [run_bind, run_query, hrunning]
  simp only [ne_eq, not_true_eq_false, if_false]
  rw [run_bind, run_query, context_of_known hr.known]
  dsimp only
  split
  · rename_i hop
    exact absurd hop hinspect
  · rename_i hop
    exact absurd hop hread
  · rw [run_self_bind]
    rw [run_bind_ok hcall]
    rfl

/-- What the journal does after the inner runtime, by operation. -/
theorem run_recordTrap (hk : KnownTask task) :
    (recordTrap jr task (jr.runtime.input task) outcome).run { jr with runtime := rt' } =
      (match jr.runtime.operation task with
      | some .submitApproval =>
        if jr.runtime.broker.state = ApprovalBrokerState.empty
            ∧ rt'.broker.state = ApprovalBrokerState.pending ∧ rt'.broker.requestPresent then journalSubmit jr task outcome
        else finishTrap jr outcome
      | some .decideApproval =>
        if jr.runtime.broker.requestPresent ∧ (rt'.input task).rax = TrapStatus.ok.code then
          journalDecide jr (jr.runtime.input task).rdx outcome
        else finishTrap jr outcome
      | some .commitEffect =>
        if jr.runtime.broker.state = ApprovalBrokerState.approved
            ∧ rt'.broker.state = ApprovalBrokerState.empty
            ∧ (rt'.input task).rax = TrapStatus.ok.code then journalCommit jr outcome
        else if jr.runtime.broker.state = ApprovalBrokerState.approved
            ∧ rt'.broker.state = ApprovalBrokerState.approved
            ∧ (rt'.input task).rax = TrapStatus.effectUnavailable.code then
          journalFailedCommit jr task outcome
        else finishTrap jr outcome
      | _ => finishTrap jr outcome).run { jr with runtime := rt' } := by
  unfold recordTrap
  rw [run_self_bind]
  rw [run_bind, run_query, context_of_known hk]
  rfl

/-- A trap ends with one of the effects, in a runtime that passes its check. -/
def JAnswers (jr : JournaledRuntime) (task : UInt64)
    (m : Method JournaledRuntime RuntimeError TrapOutcome) (start : JournaledRuntime) : Prop :=
  ∃ outcome jr', JournaledEffect jr task outcome jr' ∧ m.run start = (.ok outcome, jr')

/-- An effect that needs no record goes through the last check. -/
theorem finishTrap_answers (h : JInv jr) (hr : jr.runtime.Running task)
    (inner : TrapEffect jr.runtime task outcome rt')
    (same : rt'.broker = jr.runtime.broker ∧ rt'.effect = jr.runtime.effect) :
    JAnswers jr task (finishTrap jr outcome) { jr with runtime := rt' } := by
  have heffect : JournaledEffect jr task outcome { jr with runtime := rt' } :=
    .unrecorded inner same
  exact ⟨_, _, heffect, run_finishTrap jr outcome (h.effect hr heffect).validate⟩

/-- A submission that the broker has accepted is recorded, or taken back for want of room. -/
theorem journalSubmit_answers (h : JInv jr) (hr : jr.runtime.Running task) {kind argument : UInt64}
    (inner : TrapEffect jr.runtime task outcome rt')
    (op : jr.runtime.operation task = some .submitApproval)
    (hrun : jr.runtime.task1.state = .running) (idle : jr.runtime.broker.state = .empty)
    (broker : rt'.broker =
      jr.runtime.broker.submit kind argument (jr.runtime.broker.decisionEpoch + 1))
    (effect : rt'.effect = jr.runtime.effect) :
    JAnswers jr task (journalSubmit jr task outcome) { jr with runtime := rt' } := by
  have hlive := h.live_of_idle hrun idle
  have hk := hr.known
  have hepoch : ¬ jr.runtime.broker.decisionEpoch > u64Max - 3 := by
    have hsmall := (h.epoch_small (by rw [idle]; decide)).2
    have hbound : (u64Max - 3).toNat = 2 ^ 64 - 4 := rfl
    rw [gt_iff_lt, UInt64.lt_iff_toNat_lt, hbound]
    omega
  have hlifecycle := run_beginLifecycle (h.journal_ok hlive) hlive
    (event_fresh .requested .ok rt'.broker.decisionEpoch receiverTaskId
      workloadGeneration rt'.broker.request objectTypeApprovalBroker
      capabilityRightSubmitApproval)
  unfold journalSubmit JAnswers
  rw [if_neg hepoch]
  by_cases hroom : jr.journal.committedRecordCount + jr.journal.reservedRecordCount + 3 ≤
      effectJournalRecordCount
  · rw [if_pos hroom] at hlifecycle
    have heffect := JournaledEffect.requested inner hlive op idle broker effect hroom
    refine ⟨_, _, heffect, ?_⟩
    rw [run_self_bind]
    rw [run_bind_ok (run_onJournal { jr with runtime := rt' } hlifecycle)]
    exact run_finishTrap jr outcome (h.effect hr heffect).validate
  · rw [if_neg hroom] at hlifecycle
    have hrefused : TrapEffect jr.runtime task (.resume task)
        (mapSlot task (TaskSlot.answered .journalFull 0) jr.runtime) :=
      .refused (by decide) (by decide) (by rw [op]; exact fun hbad => by cases hbad)
    have heffect := JournaledEffect.unrecorded hrefused
      ⟨mapSlot_broker .., mapSlot_effect ..⟩
    have hset := run_onRuntime jr (run_setResult hk .journalFull 0)
    refine ⟨_, _, heffect, ?_⟩
    rw [run_self_bind]
    rw [run_bind_ok (run_onJournal { jr with runtime := rt' } hlifecycle)]
    unfold rollbackSubmit
    rw [run_update_bind]
    rw [run_bind_ok hset, run_bind, run_query]
    have hv := (h.effect hr heffect).validate
    erw [hv]
    rfl

/-- A decision is recorded with its kind. -/
theorem journalDecide_answers (h : JInv jr) (hr : jr.runtime.Running task)
    (ho : jr.runtime.broker.state = .pending ∨ jr.runtime.broker.state = .approved)
    (status : TrapStatus) (release : Bool) {decision : UInt64} {kind : EffectEventKind}
    {reserved : Nat} {jr' : JournaledRuntime}
    (hrecord : decisionRecord jr { jr with runtime := rt' } decision = some (kind, status, release))
    (hreserved : reserved = if release then 0 else reservation jr.runtime.broker.state - 1)
    (heffect : JournaledEffect jr task outcome jr')
    (hjr' : jr' = { runtime := rt'
                    journal := EffectJournal.appended
                      (EffectRecord.event kind status rt'.broker.decisionEpoch senderTaskId
                        supervisorGeneration jr.runtime.broker.request objectTypeApprovalBroker
                        capabilityRightDecideApproval) reserved jr.journal }) :
    JAnswers jr task (journalDecide jr decision outcome) { jr with runtime := rt' } := by
  have hlive := h.live_of_open ho
  have hres : jr.journal.reservedRecordCount ≠ 0 := by
    rw [h.reserved]
    rcases ho with ho | ho <;> rw [ho] <;> decide
  have happend := @run_appendOrRestore { jr with runtime := rt' } jr _ (h.journal_ok hlive) hlive
    hres (event_fresh kind status rt'.broker.decisionEpoch senderTaskId
      supervisorGeneration jr.runtime.broker.request objectTypeApprovalBroker
      capabilityRightDecideApproval) release
  have hv := (h.effect hr heffect).validate
  refine ⟨_, _, heffect, ?_⟩
  subst hjr'
  subst hreserved
  unfold journalDecide
  simp only [run_self_bind, hrecord]
  rw [run_bind_ok happend]
  rw [← h.reserved] at hv ⊢
  exact run_finishTrap jr outcome hv

/-- A commit is recorded. -/
theorem journalCommit_answers (h : JInv jr) (hr : jr.runtime.Running task)
    (inner : TrapEffect jr.runtime task outcome rt')
    (op : jr.runtime.operation task = some .commitEffect)
    (approval : jr.runtime.broker.state = .approved)
    (broker : rt'.broker = jr.runtime.broker.conclude (jr.runtime.broker.decisionEpoch + 1)) :
    JAnswers jr task (journalCommit jr outcome) { jr with runtime := rt' } := by
  have hlive := h.live_of_open (.inr approval)
  have hone : jr.journal.reservedRecordCount = 1 := by
    rw [h.reserved, approval]
    rfl
  have heffect := JournaledEffect.committed inner hlive op approval broker
  have happend := @run_appendOrRestore { jr with runtime := rt' } jr _ (h.journal_ok hlive) hlive
    (by rw [hone]; decide) (event_fresh .completed .ok rt'.broker.decisionEpoch
      senderTaskId supervisorGeneration jr.runtime.broker.request objectTypeTestEffect
      capabilityRightCommitEffect) false
  rw [hone] at happend
  refine ⟨_, _, heffect, ?_⟩
  unfold journalCommit
  rw [run_self_bind]
  rw [run_bind_ok happend]
  exact run_finishTrap jr outcome (h.effect hr heffect).validate

/-- A commit on an occupied effect is recorded as a failure. -/
theorem journalFailedCommit_answers (h : JInv jr) (hr : jr.runtime.Running task)
    (op : jr.runtime.operation task = some .commitEffect)
    (approval : jr.runtime.broker.state = .approved) :
    JAnswers jr task (journalFailedCommit jr task (.resume task))
      { jr with
        runtime := mapSlot task (TaskSlot.answered .effectUnavailable 0) jr.runtime } := by
  have hlive := h.live_of_open (.inr approval)
  have hcore := h.sup.toSupCore
  have hd : jr.runtime.broker.state ≠ .dead := by rw [approval]; decide
  have hblocked := hcore.blocked_of_open (.inr approval)
  obtain ⟨rfl, hr0, hq⟩ := hcore.supervisor_runs hr hblocked
  have hone : jr.journal.reservedRecordCount = 1 := by
    rw [h.reserved, approval]
    rfl
  have heffect := JournaledEffect.failed hlive rfl op approval
  -- the states that the four calls of the arm go through
  let jr₁ : JournaledRuntime :=
    { jr with
      runtime :=
        { jr.runtime with
          task0 := jr.runtime.task0.answered .effectUnavailable 0
          broker := jr.runtime.broker.conclude (jr.runtime.broker.decisionEpoch + 1) } }
  let jr₂ : JournaledRuntime :=
    { jr with
      runtime :=
        { jr.runtime with
          task0 := jr.runtime.task0.answered .effectUnavailable 0
          task1 := jr.runtime.task1.woken .effectUnavailable 0
          broker := jr.runtime.broker.conclude (jr.runtime.broker.decisionEpoch + 1)
          queue := RunQueue.ofList [receiverTaskId] } }
  have hwake : (onRuntime (Runtime.wakeWorkload .effectUnavailable 0)).run jr₁ = (.ok (), jr₂) :=
    run_onRuntime jr₁ (@Runtime.run_wakeWorkload jr₁.runtime hblocked hq .effectUnavailable 0)
  have hset : (onRuntime (Runtime.setResult senderTaskId .effectUnavailable 0)).run jr₂ =
      (.ok (), jr₂) :=
    run_onRuntime jr₂ (run_setResult (.inl rfl) .effectUnavailable 0)
  have happend := @run_appendOrRestore jr₂ jr _ (h.journal_ok hlive) hlive (by rw [hone]; decide)
    (event_fresh .failed .effectUnavailable (jr.runtime.broker.decisionEpoch + 1)
      senderTaskId supervisorGeneration jr.runtime.broker.request objectTypeTestEffect
      capabilityRightCommitEffect) false
  rw [hone] at happend
  refine ⟨_, _, heffect, ?_⟩
  unfold journalFailedCommit
  simp only [run_self_bind, mapSlot_broker, checkedAdd_one (h.epoch_ne_max hd)]
  show (onRuntime (Runtime.wakeWorkload .effectUnavailable 0) >>= fun _ => _).run jr₁ = _
  rw [run_bind_ok hwake, run_bind_ok hset, run_bind_ok happend]
  exact run_finishTrap jr (.resume senderTaskId) (h.effect hr heffect).validate

/-! ## Reads of the journal -/

/-- The registers that a read leaves. -/
def readContext (c : TaskContext) (status : TrapStatus) (values : UInt64 × UInt64 × UInt64) :
    TaskContext :=
  { c with rax := status.code, rdi := values.1, rsi := values.2.1, rdx := values.2.2 }

theorem run_setJournalOutput (hk : KnownTask task) (status : TrapStatus)
    (values : UInt64 × UInt64 × UInt64) :
    (setJournalOutput task status values).run jr =
      (.ok (), { jr with
        runtime := mapSlot task
          (TaskSlot.withContext (readContext (jr.runtime.input task) status values))
          jr.runtime }) := by
  unfold setJournalOutput
  rw [run_onRuntime jr (run_modifySlot hk _)]
  rcases hk with rfl | rfl <;> rfl

/-- What a read of the journal answers: a status and three words. -/
def readAnswer (jr : JournaledRuntime) (task : UInt64) (operation : TrapOperation) :
    TrapStatus × UInt64 × UInt64 × UInt64 :=
  match jr.journalReadStatus task operation (jr.runtime.input task) with
  | some status => (status, 0, 0, 0)
  | none =>
    if operation = .inspectEffectJournal then
      (.ok, if jr.journal.committedRecordCount = 0 then 0 else 1, jr.journal.nextRecordSequence,
        UInt64.ofNat jr.journal.committedRecordCount)
    else
      match jr.journal.readTriplet (jr.runtime.input task).rsi (jr.runtime.input task).rdx with
      | .ok words => (.ok, words)
      | .error e => (journalStatus e, 0, 0, 0)

/-- The runtime after a read that is answered so. -/
def afterRead (jr : JournaledRuntime) (task : UInt64)
    (answer : TrapStatus × UInt64 × UInt64 × UInt64) : JournaledRuntime :=
  { jr with
    runtime := mapSlot task
      (TaskSlot.withContext (readContext (jr.runtime.input task) answer.1 answer.2)) jr.runtime }

theorem afterRead_effect (op : jr.runtime.operation task = some .inspectEffectJournal ∨
      jr.runtime.operation task = some .readEffectRecord)
    (answer : TrapStatus × UInt64 × UInt64 × UInt64) :
    JournaledEffect jr task (.resume task) (jr.afterRead task answer) :=
  .read op ⟨rfl, rfl, rfl⟩

/-- A read writes its answer into the registers of the caller and does nothing else. -/
theorem run_handleJournalRead (h : JInv jr) (hr : jr.runtime.Running task)
    {operation : TrapOperation} (op : jr.runtime.operation task = some operation)
    (hread : operation = .inspectEffectJournal ∨ operation = .readEffectRecord) :
    (handleJournalRead task operation (jr.runtime.input task)).run jr =
      (.ok (.resume task), jr.afterRead task (jr.readAnswer task operation)) := by
  have hk := hr.known
  have hop : jr.runtime.operation task = some .inspectEffectJournal ∨
      jr.runtime.operation task = some .readEffectRecord := by
    rcases hread with rfl | rfl
    · exact .inl op
    · exact .inr op
  -- the successful reads write one triplet of words and check the invariants
  have hok : ∀ status values, (do
      setJournalOutput task status values
      Method.query validate
      pure (.resume task) : Method JournaledRuntime RuntimeError TrapOutcome).run jr =
      (.ok (.resume task), jr.afterRead task (status, values)) := by
    intro status values
    have hvalid := (h.effect hr (afterRead_effect hop (status, values))).validate
    have hquery : (Method.query validate : Method JournaledRuntime RuntimeError Unit).run
        (jr.afterRead task (status, values)) = (.ok (), jr.afterRead task (status, values)) := by
      rw [run_query, hvalid]
    exact (run_bind_ok (run_setJournalOutput hk status values)).trans
      (run_bind_ok hquery)
  unfold handleJournalRead readAnswer
  rw [run_self_bind]
  cases hstatus : jr.journalReadStatus task operation (jr.runtime.input task) with
  | some status =>
    dsimp only
    rw [run_bind_ok (run_setJournalOutput hk status (0, 0, 0))]
    rfl
  | none =>
    rcases hread with rfl | rfl
    · exact hok .ok _
    · dsimp only
      rw [if_neg (by decide)]
      cases hwords : jr.journal.readTriplet (jr.runtime.input task).rsi
          (jr.runtime.input task).rdx with
      | error e => exact hok (journalStatus e) _
      | ok words => exact hok .ok words

/-- A trap with one of the two read operations is that read. -/
theorem run_handleTrap_read (h : JInv jr) (hr : jr.runtime.Running task)
    {operation : TrapOperation} (op : jr.runtime.operation task = some operation)
    (hread : operation = .inspectEffectJournal ∨ operation = .readEffectRecord) :
    (handleTrap task).run jr =
      (.ok (.resume task), jr.afterRead task (jr.readAnswer task operation)) := by
  have hrunning : jr.runtime.runningTask = .ok task :=
    (runningTask_eq_ok h.sup.id0 h.sup.id1 h.sup.valid.one_running).mpr hr
  have hparse : TrapOperation.parse (jr.runtime.slotOf task).context.rax = some operation := op
  unfold handleTrap
  rw [run_bind, run_query, hrunning]
  simp only [ne_eq, not_true_eq_false, if_false]
  rw [run_bind, run_query, context_of_known hr.known]
  dsimp only
  rw [hparse, ← run_handleJournalRead h hr op hread]
  rcases hread with rfl | rfl <;> rfl

/-! ## All operations -/

/-- What is left of a trap once the inner runtime has handled it. -/
theorem recordTrap_answers (h : JInv jr) (hr : jr.runtime.Running task)
    (he : TrapEffect jr.runtime task outcome rt') :
    JAnswers jr task (recordTrap jr task (jr.runtime.input task) outcome)
      { jr with runtime := rt' } := by
  have hk := hr.known
  have hcore := h.sup.toSupCore
  unfold JAnswers
  rw [run_recordTrap hk]
  -- an effect whose operation has no arm of its own
  have hquiet : rt'.broker = jr.runtime.broker ∧ rt'.effect = jr.runtime.effect →
      JAnswers jr task (finishTrap jr outcome) { jr with runtime := rt' } :=
    finishTrap_answers h hr he
  have inner := he
  cases he with
  | refused ne_ok unexpired receiving =>
    rename_i status
    have hsame := hquiet ⟨mapSlot_broker .., mapSlot_effect ..⟩
    have hrax : ((mapSlot task (TaskSlot.answered status 0) jr.runtime).input task).rax =
        status.code := by
      rcases hk with rfl | rfl <;> rfl
    rw [hrax, mapSlot_broker]
    split
    · rw [if_neg]
      · exact hsame
      · rintro ⟨hempty, hpending, -⟩
        exact nomatch hempty.symm.trans hpending
    · rw [if_neg]
      · exact hsame
      · exact fun hbad => ne_ok (TrapStatus.code_injective hbad.2)
    · rename_i op
      rw [if_neg fun hbad => ne_ok (TrapStatus.code_injective hbad.2.2)]
      by_cases hfailed : jr.runtime.broker.state = .approved ∧ status = .effectUnavailable
      · obtain ⟨happroved, rfl⟩ := hfailed
        rw [if_pos ⟨happroved, happroved, rfl⟩]
        exact journalFailedCommit_answers h hr op happroved
      · rw [if_neg fun hbad => hfailed ⟨hbad.1, TrapStatus.code_injective hbad.2.2⟩]
        exact hsame
    · exact hsame
  | kept op | exited op | duplicated op | closed op | inspected op =>
    rw [op]
    exact hquiet ⟨mapSlot_broker .., mapSlot_effect ..⟩
  | yielded op =>
    rw [op]
    refine hquiet ⟨?_, ?_⟩
    · rw [mapSlot_broker, mapSlot_broker]
    · rw [mapSlot_effect, mapSlot_effect]
  | launched op | stored op | delivered op | took op | blocked op =>
    rw [op]
    exact hquiet ⟨rfl, rfl⟩
  | submitted op workload supervised idle kind unexhausted epoch waiting =>
    subst workload
    rw [op]
    dsimp only
    rw [if_pos ⟨idle, rfl, rfl⟩]
    exact journalSubmit_answers h hr inner op hr.state idle rfl rfl
  | approved op supervisor supervised pending names decision epoch expiry =>
    subst supervisor
    rw [op]
    dsimp only
    rw [if_pos ⟨h.sup.present_of_open (.inl pending), rfl⟩]
    refine journalDecide_answers h hr (.inl pending) .ok false ?_ ?_
      (.approved inner (h.live_of_open (.inl pending)) op pending rfl rfl) rfl
    · unfold decisionRecord
      rw [if_pos ⟨decision, rfl⟩]
    · rw [pending]
      rfl
  | concluded op supervisor supervised open_request names decision epoch =>
    subst supervisor
    have hlive := h.live_of_open open_request
    rw [op]
    dsimp only
    rw [if_pos ⟨h.sup.present_of_open open_request, rfl⟩]
    rcases decision with ⟨hdeny, rfl, hpending⟩ | ⟨hexpire, rfl⟩
    · refine journalDecide_answers h hr open_request .approvalDenied true ?_ ?_
        (.concluded inner hlive op open_request (.inl ⟨rfl, hpending⟩) rfl rfl) rfl
      · unfold decisionRecord
        rw [hdeny, if_neg (by rintro ⟨hbad, -⟩; cases hbad), if_pos ⟨rfl, rfl⟩]
      · rfl
    · refine journalDecide_answers h hr open_request .approvalExpired
        (jr.runtime.broker.state = .pending) ?_ ?_
        (.concluded inner hlive op open_request (.inr rfl) rfl rfl) rfl
      · unfold decisionRecord
        rw [hexpire, if_neg (by rintro ⟨hbad, -⟩; cases hbad),
          if_neg (by rintro ⟨hbad, -⟩; cases hbad), if_pos ⟨rfl, rfl⟩]
      · rcases open_request with hs | hs <;> rw [hs] <;> rfl
  | exhausted op supervisor supervised open_request epoch =>
    have hd : jr.runtime.broker.state ≠ .dead := by
      rcases open_request with hs | hs <;> rw [hs] <;> decide
    rcases epoch with hmax | hmax
    · exact absurd hmax (h.epoch_ne_max hd)
    · exact absurd hmax (h.epoch_succ_ne_max hd)
  | committed op supervisor supervised approval names argument vacant bound epoch =>
    subst supervisor
    rw [op]
    dsimp only
    rw [if_pos ⟨approval, rfl, rfl⟩]
    exact journalCommit_answers h hr inner op approval rfl

/-- Every trap of the running task has one of the effects. -/
theorem journaled_answers (h : JInv jr) (hr : jr.runtime.Running task) :
    JAnswers jr task (handleTrap task) jr := by
  by_cases hread : jr.runtime.operation task = some .inspectEffectJournal ∨
      jr.runtime.operation task = some .readEffectRecord
  · obtain ⟨operation, op, hoperation⟩ : ∃ o, jr.runtime.operation task = some o ∧
        (o = .inspectEffectJournal ∨ o = .readEffectRecord) := by
      rcases hread with op | op
      · exact ⟨_, op, .inl rfl⟩
      · exact ⟨_, op, .inr rfl⟩
    exact ⟨_, _, afterRead_effect hread _, run_handleTrap_read h hr op hoperation⟩
  · rw [not_or] at hread
    obtain ⟨outcome, rt', inner, hinner⟩ := supervised_answers h.sup hr
    have hvalid : rt'.validate = .ok () :=
      TaskRuntime.validate_eq_ok.mpr (h.sup.effect hr inner).valid
    obtain ⟨outcome', jr', heffect, hrun⟩ := recordTrap_answers h hr inner
    exact ⟨outcome', jr', heffect,
      (run_handleTrap_inner h hr hread.1 hread.2 (hinner hvalid)).trans hrun⟩

end JournaledRuntime

end MakopaVerified.TaskRuntime
