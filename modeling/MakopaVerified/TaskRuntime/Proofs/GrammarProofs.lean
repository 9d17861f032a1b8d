import MakopaVerified.TaskRuntime.Proofs.KernelProofs

/-!
# The journal keeps to its grammar

The invariant of the journaled profile contains the history of the broker, so every reachable
journal follows the grammar. Which call adds which record is read off the cases of one call.
-/

namespace MakopaVerified.TaskRuntime

open Foundation EffectJournal

namespace JInv

variable {jr : JournaledRuntime}

/-- The last committed record of an open request is the last one of its lifecycle so far. -/
theorem getLast_committed (h : JInv jr) (kinds : List EffectEventKind) {kind : EffectEventKind}
    (hopen : ∀ sequence current, CurrentOk jr.runtime.broker.state sequence current →
      Spells sequence kinds current) (hlast : kinds.getLast? = some kind) :
    ∃ r ∈ jr.journal.committed.getLast?, r.eventKind = kind.code := by
  obtain ⟨finished, current, hist⟩ := h.history
  obtain ⟨r, hmem, hkind⟩ := (hopen _ _ hist.current_ok).getLast hlast
  refine ⟨r, ?_, hkind⟩
  rw [hist.records_eq, List.getLast?_append, Option.mem_def.mp hmem]
  rfl

theorem grammar (h : JInv jr) : JournalGrammar jr := by
  obtain ⟨finished, current, hist⟩ := h.history
  refine
    { lifecycles := ⟨finished, current, hist.records_eq, hist.finished_ok, ?_⟩
      count := (length_committed h.committed_le).symm
      position := hist.position
      epoch := fun hd => (h.epoch_small hd).1
      reserved_two := ?_
      reserved_one := ?_
      reserved_le := ?_
      capacity := ?_
      kernel_last := h.kernel_last }
  · have hc := hist.current_ok
    cases hs : jr.runtime.broker.state with
    | pending =>
      rw [hs] at hc
      exact .inr ⟨_, List.mem_cons_self, hc⟩
    | approved =>
      rw [hs] at hc
      exact .inr ⟨_, List.mem_cons_of_mem _ List.mem_cons_self, hc⟩
    | building | empty | closing | dead =>
      rw [hs] at hc
      exact .inl hc
  · rw [h.reserved]
    cases hs : jr.runtime.broker.state with
    | pending =>
      refine iff_of_true rfl ⟨rfl, h.getLast_committed [.requested] ?_ rfl⟩
      intro sequence current hc
      rw [hs] at hc
      exact hc
    | building | empty | approved | closing | dead =>
      exact iff_of_false (by decide) fun hp => nomatch hp.1
  · rw [h.reserved]
    cases hs : jr.runtime.broker.state with
    | approved =>
      refine iff_of_true rfl ⟨rfl, h.getLast_committed [.requested, .approved] ?_ rfl⟩
      intro sequence current hc
      rw [hs] at hc
      exact hc
    | building | empty | pending | closing | dead =>
      exact iff_of_false (by decide) fun hp => nomatch hp.1
  · rw [h.reserved]
    cases jr.runtime.broker.state <;> decide
  · rcases h.journal with hd | hok
    · rw [hd]
      exact Nat.zero_le _
    · exact hok.capacity

end JInv

/-! ## One call -/

namespace TrapEffect

variable {rt rt' : Runtime} {task : UInt64} {outcome : TrapOutcome}

/-- Only the workload opens a request, and only the supervisor moves one on. -/
theorem actor (he : TrapEffect rt task outcome rt')
    (hchange : rt'.broker.state ≠ rt.broker.state) :
    (rt.operation task = some .submitApproval ∧ task = receiverTaskId) ∨
      ((rt.operation task = some .decideApproval ∨ rt.operation task = some .commitEffect) ∧
        task = senderTaskId) := by
  cases he with
  | refused | kept | exited | duplicated | closed | inspected =>
    rw [Runtime.mapSlot_broker] at hchange
    exact absurd rfl hchange
  | yielded =>
    rw [Runtime.mapSlot_broker, Runtime.mapSlot_broker] at hchange
    exact absurd rfl hchange
  | stored | delivered | took | blocked | launched => exact absurd rfl hchange
  | submitted op workload => exact .inl ⟨op, workload⟩
  | approved op supervisor | concluded op supervisor | exhausted op supervisor =>
    exact .inr ⟨.inl op, supervisor⟩
  | committed op supervisor => exact .inr ⟨.inr op, supervisor⟩

end TrapEffect

namespace JInv

variable {jr jr' : JournaledRuntime} {task : UInt64} {outcome : TrapOutcome}

theorem supervisor_generation (h : JInv jr) (hr : jr.runtime.Running senderTaskId) :
    jr.runtime.task0.generation = supervisorGeneration :=
  h.sup.toSupCore.sup.supervisor_generation (by
    rw [show jr.runtime.task0.state = .running from hr.state]
    decide)

theorem workload_generation (h : JInv jr) (hr : jr.runtime.Running receiverTaskId) :
    jr.runtime.task1.generation = workloadGeneration :=
  h.sup.toSupCore.sup.workload_generation (by
    rw [show jr.runtime.task1.state = .running from hr.state]
    decide)

/-- A trap adds no record, or the one of its own operation. -/
theorem trap_records (h : JInv jr) (hr : jr.runtime.Running task)
    (he : JournaledEffect jr task outcome jr') :
    jr'.journal.committed = jr.journal.committed ∨
      ∃ r, jr.journal.state = .live ∧ jr'.journal.committed = jr.journal.committed ++ [r] ∧
        r.NamesOperation task (jr.runtime.slotOf task).generation (jr.runtime.operation task) := by
  cases he with
  | unrecorded inner same => exact .inl rfl
  | read op fixed => exact .inl rfl
  | requested inner live op idle broker effect room =>
    obtain rfl : task = receiverTaskId := by
      rcases inner.actor (by rw [broker, idle]; exact nofun) with
        ⟨-, hw⟩ | ⟨ho | ho, -⟩
      · exact hw
      · rw [op] at ho
        cases ho
      · rw [op] at ho
        cases ho
    refine .inr ⟨_, live, committed_appended (by omega) _, ?_⟩
    rw [op, show (jr.runtime.slotOf receiverTaskId).generation = _ from h.workload_generation hr]
    exact ⟨rfl, rfl, rfl, rfl, rfl, rfl⟩
  | approved inner live op pending broker effect =>
    obtain ⟨hroom, hone⟩ := h.open_room (.inl pending)
    obtain rfl : task = senderTaskId := by
      rcases inner.actor (by rw [broker, pending]; exact nofun) with
        ⟨ho, -⟩ | ⟨-, hs⟩
      · rw [op] at ho
        cases ho
      · exact hs
    refine .inr ⟨_, live, committed_appended (by omega) _, ?_⟩
    rw [op, show (jr.runtime.slotOf senderTaskId).generation = _ from h.supervisor_generation hr]
    exact ⟨rfl, rfl, rfl, rfl, rfl, rfl⟩
  | concluded inner live op open_request decision broker effect =>
    obtain ⟨hroom, hone⟩ := h.open_room open_request
    obtain rfl : task = senderTaskId := by
      have hchange : (jr.runtime.broker.conclude (jr.runtime.broker.decisionEpoch + 1)).state ≠
          jr.runtime.broker.state := by
        rcases open_request with ho | ho
        · rw [ho]
          exact nofun
        · rw [ho]
          exact nofun
      rcases inner.actor (broker ▸ hchange) with ⟨ho, -⟩ | ⟨-, hs⟩
      · rw [op] at ho
        cases ho
      · exact hs
    refine .inr ⟨_, live, committed_appended (by omega) _, ?_⟩
    rw [op, show (jr.runtime.slotOf senderTaskId).generation = _ from h.supervisor_generation hr]
    exact ⟨rfl, rfl, rfl, rfl, rfl, rfl⟩
  | committed inner live op approval broker =>
    obtain ⟨hroom, hone⟩ := h.open_room (.inr approval)
    obtain rfl : task = senderTaskId := by
      rcases inner.actor (by rw [broker, approval]; exact nofun) with
        ⟨ho, -⟩ | ⟨-, hs⟩
      · rw [op] at ho
        cases ho
      · exact hs
    refine .inr ⟨_, live, committed_appended (by omega) _, ?_⟩
    rw [op, show (jr.runtime.slotOf senderTaskId).generation = _ from h.supervisor_generation hr]
    exact h.commit_record approval _ _ _
  | failed live supervisor op approval =>
    obtain ⟨hroom, hone⟩ := h.open_room (.inr approval)
    subst supervisor
    refine .inr ⟨_, live, committed_appended (by omega) _, ?_⟩
    rw [op, show (jr.runtime.slotOf senderTaskId).generation = _ from h.supervisor_generation hr]
    exact h.commit_record approval _ _ _

theorem begun_records (h : JInv jr) (he : JournaledBegun jr task jr') :
    JournalStep jr (.beginTeardown task jr.runtime jr'.runtime) jr' := by
  cases he with
  | quiet inner idle journal =>
    refine .unchanged ?_
    rw [journal]
    rfl
  | terminal inner live decision =>
    obtain ⟨hroom, hone⟩ := h.open_room (decision.imp And.left And.left)
    exact .closed live (committed_appended (by omega) 0)
      ⟨rfl, rfl, rfl, rfl, rfl, rfl⟩ rfl

theorem journal_step (h : JInv jr) {e : KernelEvent}
    (he : KernelEffect (.journaled jr) e (.journaled jr')) : JournalStep jr e jr' := by
  cases he with
  | @journaledTrap _ _ task root frame outcome running root_ne effect =>
    have hop : (jr.runtime.captured task root frame).operation task = frame.operation :=
      Runtime.captured_operation running.known
    rcases (h.captured running root_ne).trap_records running.captured effect with
      hsame | ⟨r, hlive, hadds, hnames⟩
    · exact .unchanged hsame
    · exact .recorded hlive hadds (hop ▸ hnames)
  | journaledBegun exited live effect => exact h.begun_records effect
  | journaledCompleted exited closing effect => exact .unchanged rfl
  | reclaimed dead0 dead1 => exact .reclaimed rfl

end JInv

/-- Every reachable journal follows the grammar, and every call adds at most the record of what it
did: a trap one that names its caller, the kernel itself only the last one when it seals. -/
theorem journal_follows_grammar {history : List KernelEvent} {jr : JournaledRuntime}
    (h : Run (kernelSystem .journaled) history (.journaled jr)) :
    JournalGrammar jr ∧
      ∀ e jr', KernelStep (.journaled jr) e (.journaled jr') → JournalStep jr e jr' := by
  have hinv := KernelInv.run h
  cases hinv with
  | journaled inv =>
    exact ⟨inv.grammar, fun e jr' hstep =>
      inv.journal_step ((KernelInv.journaled inv).step hstep)⟩

/-- A request that is approved and committed leaves three records. -/
theorem committed_request_follows_grammar :
    ∃ history jr, Run (kernelSystem .journaled) history (.journaled jr) ∧
      jr.journal.committedRecordCount = 3 ∧ JournalGrammar jr := by
  have hexec : ∃ r ∈ KernelRuntime.execute .journaled (.start senderTaskId supervisorGeneration)
      (.start receiverTaskId workloadGeneration)
      [.request 6 16 1 0, .request 0 0 0 0, .request 7 16 1 99, .request 9 17 1 decisionApprove,
        .request 10 18 1 99],
      r.2.runtime.broker.state = .empty ∧ r.2.runtime.broker.decisionEpoch = 4 := by
    decide +kernel
  obtain ⟨⟨history, k⟩, hmem, hstate, hepoch⟩ := hexec
  have hrun := KernelRuntime.execute_run hmem
  cases KernelInv.run hrun with
  | @journaled jr inv =>
    have hgrammar := (journal_follows_grammar hrun).1
    refine ⟨history, jr, hrun, ?_, hgrammar⟩
    have hcount := hgrammar.epoch (by
      rw [show jr.runtime.broker.state = .empty from hstate]
      decide)
    rw [show jr.runtime.broker.decisionEpoch = 4 from hepoch] at hcount
    exact (Nat.succ.inj hcount).symm

end MakopaVerified.TaskRuntime
