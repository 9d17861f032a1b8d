import MakopaVerified.TaskRuntime.Proofs.JournaledProofs
import MakopaVerified.TaskRuntime.Proofs.LifecycleProofs

/-!
# Traps of the journaled profile

`JInv` is the invariant of the journaled profile: that of the supervised one, a journal that is
live exactly until the first teardown begins, and a broker that agrees with its history. Under it
every trap has one of the effects of `JournaledEffect`.
-/

namespace MakopaVerified.TaskRuntime

open Foundation

/-- The teardown of a task has begun. -/
def Runtime.Torn (rt : Runtime) : Prop :=
  (rt.task0.capabilities.state = .closing ∨ rt.task0.capabilities.state = .dead) ∨
    (rt.task1.capabilities.state = .closing ∨ rt.task1.capabilities.state = .dead)

/-- The invariant of the journaled profile. -/
structure JInv (jr : JournaledRuntime) : Prop where
  sup : SupInv jr.runtime
  journal : jr.journal = EffectJournal.dead ∨ jr.journal.JournalOk
  supervisor_entries : (JournaledRuntime.journalEntries jr.runtime.task0.capabilities).length ≤ 1
  workload_entries : (JournaledRuntime.journalEntries jr.runtime.task1.capabilities).length = 0
  entries_fixed : ∀ entry ∈ JournaledRuntime.journalEntries jr.runtime.task0.capabilities,
    JournaledRuntime.EntryFixed entry
  live_iff : jr.journal.state = .live ↔ ¬ jr.runtime.Torn
  dead_done : jr.journal.state = .dead →
    jr.runtime.task0.state = .dead ∧ jr.runtime.task1.state = .dead
  reserved : jr.journal.reservedRecordCount =
    JournaledRuntime.reservation jr.runtime.broker.state
  history : ∃ finished current,
    History jr.runtime.broker jr.journal.committed finished current
  kernel_last : ∀ i (h : i < jr.journal.committed.length),
    jr.journal.committed[i].actorTaskId = 0 →
      i + 1 = jr.journal.committed.length ∧ jr.journal.state = .sealed

/-! ## Effects -/

/-- Everything that a trap of the running task can do to a journaled runtime. -/
inductive JournaledEffect (jr : JournaledRuntime) (task : UInt64) :
    TrapOutcome → JournaledRuntime → Prop where
  /-- Nothing happens to the request, and nothing is recorded. -/
  | unrecorded {outcome : TrapOutcome} {rt' : Runtime}
      (inner : TrapEffect jr.runtime task outcome rt')
      (same : rt'.broker = jr.runtime.broker ∧ rt'.effect = jr.runtime.effect) :
      JournaledEffect jr task outcome { jr with runtime := rt' }
  /-- A read of the journal writes the caller's result registers only. -/
  | read {context : TaskContext}
      (op : jr.runtime.operation task = some .inspectEffectJournal ∨
        jr.runtime.operation task = some .readEffectRecord)
      (fixed : context.taskId = (jr.runtime.input task).taskId ∧
        context.generation = (jr.runtime.input task).generation ∧
        context.root = (jr.runtime.input task).root) :
      JournaledEffect jr task (.resume task)
        { jr with runtime := Runtime.mapSlot task (TaskSlot.withContext context) jr.runtime }
  /-- A request is accepted and recorded. -/
  | requested {outcome : TrapOutcome} {rt' : Runtime} {kind argument : UInt64}
      (inner : TrapEffect jr.runtime task outcome rt') (live : jr.journal.state = .live)
      (op : jr.runtime.operation task = some .submitApproval)
      (idle : jr.runtime.broker.state = .empty)
      (broker : rt'.broker =
        jr.runtime.broker.submit kind argument (jr.runtime.broker.decisionEpoch + 1))
      (effect : rt'.effect = jr.runtime.effect)
      (room : jr.journal.committedRecordCount + jr.journal.reservedRecordCount + 3 ≤
        effectJournalRecordCount) :
      JournaledEffect jr task outcome
        { runtime := rt'
          journal := EffectJournal.appended
            (EffectRecord.event .requested .ok rt'.broker.decisionEpoch receiverTaskId
              workloadGeneration rt'.broker.request objectTypeApprovalBroker
              capabilityRightSubmitApproval) 2 jr.journal }
  /-- The pending request is approved and the approval recorded. -/
  | approved {outcome : TrapOutcome} {rt' : Runtime}
      (inner : TrapEffect jr.runtime task outcome rt') (live : jr.journal.state = .live)
      (op : jr.runtime.operation task = some .decideApproval)
      (pending : jr.runtime.broker.state = .pending)
      (broker : rt'.broker = jr.runtime.broker.approve (jr.runtime.broker.decisionEpoch + 1))
      (effect : rt'.effect = jr.runtime.effect) :
      JournaledEffect jr task outcome
        { runtime := rt'
          journal := EffectJournal.appended
            (EffectRecord.event .approved .ok rt'.broker.decisionEpoch senderTaskId
              supervisorGeneration jr.runtime.broker.request objectTypeApprovalBroker
              capabilityRightDecideApproval) 1 jr.journal }
  /-- The open request is denied or expired and that is recorded. -/
  | concluded {outcome : TrapOutcome} {rt' : Runtime} {kind : EffectEventKind} {status : TrapStatus}
      (inner : TrapEffect jr.runtime task outcome rt') (live : jr.journal.state = .live)
      (op : jr.runtime.operation task = some .decideApproval)
      (open_request : jr.runtime.broker.state = .pending ∨ jr.runtime.broker.state = .approved)
      (decision : (kind = .denied ∧ jr.runtime.broker.state = .pending) ∨ kind = .expired)
      (broker : rt'.broker = jr.runtime.broker.conclude (jr.runtime.broker.decisionEpoch + 1))
      (effect : rt'.effect = jr.runtime.effect) :
      JournaledEffect jr task outcome
        { runtime := rt'
          journal := EffectJournal.appended
            (EffectRecord.event kind status rt'.broker.decisionEpoch senderTaskId
              supervisorGeneration jr.runtime.broker.request objectTypeApprovalBroker
              capabilityRightDecideApproval) 0 jr.journal }
  /-- The approved request is committed and that is recorded. -/
  | committed {outcome : TrapOutcome} {rt' : Runtime}
      (inner : TrapEffect jr.runtime task outcome rt') (live : jr.journal.state = .live)
      (op : jr.runtime.operation task = some .commitEffect)
      (approval : jr.runtime.broker.state = .approved)
      (broker : rt'.broker = jr.runtime.broker.conclude (jr.runtime.broker.decisionEpoch + 1)) :
      JournaledEffect jr task outcome
        { runtime := rt'
          journal := EffectJournal.appended
            (EffectRecord.event .completed .ok rt'.broker.decisionEpoch senderTaskId
              supervisorGeneration jr.runtime.broker.request objectTypeTestEffect
              capabilityRightCommitEffect) 0 jr.journal }
  /-- A commit meets an occupied effect: the approval is consumed and the failure recorded. -/
  | failed (live : jr.journal.state = .live) (supervisor : task = senderTaskId)
      (op : jr.runtime.operation task = some .commitEffect)
      (approval : jr.runtime.broker.state = .approved) :
      JournaledEffect jr task (.resume task)
        { runtime :=
            { jr.runtime with
              task0 := jr.runtime.task0.answered .effectUnavailable 0
              task1 := jr.runtime.task1.woken .effectUnavailable 0
              broker := jr.runtime.broker.conclude (jr.runtime.broker.decisionEpoch + 1)
              queue := RunQueue.ofList [receiverTaskId] }
          journal := EffectJournal.appended
            (EffectRecord.event .failed .effectUnavailable (jr.runtime.broker.decisionEpoch + 1)
              senderTaskId supervisorGeneration jr.runtime.broker.request objectTypeTestEffect
              capabilityRightCommitEffect) 0 jr.journal }

/-! ## What the invariant says about a trap -/

namespace JInv

variable {jr : JournaledRuntime} {task : UInt64}

theorem journal_ok (h : JInv jr) (hlive : jr.journal.state = .live) : jr.journal.JournalOk := by
  rcases h.journal with hd | hok
  · rw [hd] at hlive
    cases hlive
  · exact hok

theorem committed_le (h : JInv jr) :
    jr.journal.committedRecordCount ≤ effectJournalRecordCount := by
  rcases h.journal with hd | hok
  · rw [hd]
    exact Nat.zero_le _
  · exact Nat.le_trans (Nat.le_add_right _ _) hok.capacity

/-- The epoch counts the records, so it stays far below its end. -/
theorem epoch_small (h : JInv jr) (hd : jr.runtime.broker.state ≠ .dead) :
    jr.runtime.broker.decisionEpoch.toNat = jr.journal.committedRecordCount + 1 ∧
      jr.runtime.broker.decisionEpoch.toNat ≤ 17 := by
  obtain ⟨finished, current, hist⟩ := h.history
  have hle := h.committed_le
  have hepoch := hist.epoch hd
  rw [EffectJournal.length_committed hle] at hepoch
  unfold effectJournalRecordCount at hle
  exact ⟨hepoch, by omega⟩

theorem epoch_ne_max (h : JInv jr) (hd : jr.runtime.broker.state ≠ .dead) :
    jr.runtime.broker.decisionEpoch ≠ u64Max := by
  intro hmax
  have hm : u64Max.toNat = 2 ^ 64 - 1 := rfl
  have hle := (h.epoch_small hd).2
  rw [hmax, hm] at hle
  omega

theorem epoch_succ_ne_max (h : JInv jr) (hd : jr.runtime.broker.state ≠ .dead) :
    jr.runtime.broker.decisionEpoch + 1 ≠ u64Max := by
  intro hmax
  have hm : u64Max.toNat = 2 ^ 64 - 1 := rfl
  have hle := (h.epoch_small hd).2
  have hsucc := toNat_add_one (h.epoch_ne_max hd)
  rw [hmax, hm] at hsucc
  omega

/-- While a request is open, no teardown has begun. -/
theorem live_of_open (h : JInv jr)
    (ho : jr.runtime.broker.state = .pending ∨ jr.runtime.broker.state = .approved) :
    jr.journal.state = .live := by
  have hcore := h.sup.toSupCore
  have hc : jr.runtime.broker.state ≠ .closing := by rcases ho with ho | ho <;> rw [ho] <;> decide
  have hd : jr.runtime.broker.state ≠ .dead := by rcases ho with ho | ho <;> rw [ho] <;> decide
  have hlive1 : jr.runtime.task1.capabilities.state = .live :=
    hcore.valid.slot1.table_live (by rw [hcore.blocked_of_open ho]; rfl)
  obtain ⟨hdead0, hclosing0⟩ := hcore.broker_open hc hd
  rw [h.live_iff]
  rintro ((ht | ht) | (ht | ht))
  · exact hclosing0 ht
  · exact hdead0 (hcore.valid.slot0.dead_of_table ht)
  · exact nomatch hlive1.symm.trans ht
  · exact nomatch hlive1.symm.trans ht

/-- A workload that runs can submit only as long as no teardown has begun. -/
theorem live_of_idle (h : JInv jr) (hr : jr.runtime.task1.state = .running)
    (hs : jr.runtime.broker.state = .empty) : jr.journal.state = .live := by
  have hcore := h.sup.toSupCore
  have hlive1 : jr.runtime.task1.capabilities.state = .live :=
    hcore.valid.slot1.table_live (by rw [hr]; rfl)
  obtain ⟨hdead0, hclosing0⟩ := hcore.broker_open (by rw [hs]; decide) (by rw [hs]; decide)
  rw [h.live_iff]
  rintro ((ht | ht) | (ht | ht))
  · exact hclosing0 ht
  · exact hdead0 (hcore.valid.slot0.dead_of_table ht)
  · exact nomatch hlive1.symm.trans ht
  · exact nomatch hlive1.symm.trans ht

/-- Once a teardown has begun, there is no open request. -/
theorem idle_of_torn (h : JInv jr) (ht : jr.runtime.Torn) : jr.runtime.broker.Idle := by
  refine ⟨fun hs => ?_, fun hs => ?_⟩
  · exact h.live_iff.mp (h.live_of_open (.inl hs)) ht
  · exact h.live_iff.mp (h.live_of_open (.inr hs)) ht

/-- The invariant is stronger than the check. -/
theorem jvalid (h : JInv jr) : jr.JValid := by
  have hvalid := h.sup.valid
  refine
    { runtime := hvalid
      journal := h.journal
      supervisor_entries := h.supervisor_entries
      workload_entries := h.workload_entries
      entries_fixed := h.entries_fixed
      journal_state := ?_
      workload_dead := ?_ }
  · unfold JournaledRuntime.JournalStateOk
    rcases h.journal with hd | hok
    · have hs : jr.journal.state = .dead := by rw [hd]; rfl
      obtain ⟨hd0, hd1⟩ := h.dead_done hs
      have htable := hvalid.slot0.table_valid
      have hempty : jr.runtime.task0.capabilities = CapabilityTable.dead :=
        CapabilityTable.eq_dead_of_validate (hvalid.slot0.table_dead hd0) htable
      rw [hs, hempty]
      exact ⟨⟨hd0, hd1⟩, by decide⟩
    · rcases hok.state with hs | hs
      · rw [hs]
        refine ⟨?_, h.reserved⟩
        rintro ⟨hd0, -⟩
        exact h.live_iff.mp hs (.inl (.inr (hvalid.slot0.table_dead hd0)))
      · rw [hs]
        have htorn : jr.runtime.Torn := by
          by_contra ht
          exact nomatch hs.symm.trans (h.live_iff.mpr ht)
        have hidle := h.idle_of_torn htorn
        refine ⟨hok.sealed_reserved hs, ?_, hidle.1, hidle.2⟩
        rw [Bool.eq_false_iff]
        intro hp
        rcases h.sup.toSupCore.open_of_present hp with ho | ho
        · exact hidle.1 ho
        · exact hidle.2 ho
  · intro hd1
    have htorn : jr.runtime.Torn := .inr (.inr (hvalid.slot1.table_dead hd1))
    rcases h.journal with hd | hok
    · exact .inr (by rw [hd]; rfl)
    · rcases hok.state with hs | hs
      · exact absurd htorn (h.live_iff.mp hs)
      · exact .inl hs

theorem validate (h : JInv jr) : jr.validate = .ok () := JournaledRuntime.validate_eq_ok.mpr h.jvalid

end JInv

end MakopaVerified.TaskRuntime
