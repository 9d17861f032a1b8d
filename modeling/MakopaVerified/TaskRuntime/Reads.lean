import MakopaVerified.TaskRuntime.Observations

/-!
# Reading the journal back

A read of a record is a trap with operation 12: it names a record by its sequence and one of six
triplets of words, and is answered with these words. A history that holds an answered read for each
of the six triplets has collected the record.
-/

namespace MakopaVerified.TaskRuntime

open Foundation

/-- The three words of a record that one read returns. -/
def EffectRecord.triplet (r : EffectRecord) (index : Nat) : UInt64 × UInt64 × UInt64 :=
  ((r.word (index * 3)).getD 0, (r.word (index * 3 + 1)).getD 0, (r.word (index * 3 + 2)).getD 0)

/-- A read of a record that was answered `Ok`. -/
structure RecordRead where
  sequence : UInt64
  triplet : UInt64
  words : UInt64 × UInt64 × UInt64
  deriving DecidableEq, Repr

/-- The read of an event, if it is one. -/
def KernelEvent.reads : KernelEvent → Option RecordRead
  | .trap task frame _ _ after =>
    if frame.operation = some .readEffectRecord ∧ after.Told task .ok then
      some
        { sequence := frame.rsi
          triplet := frame.rdx
          words := ((after.input task).rdi, (after.input task).rsi, (after.input task).rdx) }
    else none
  | _ => none

/-- The history holds a read of the record for each triplet, with these words for an answer. -/
def Collects (history : List KernelEvent) (sequence : UInt64)
    (words : Fin 6 → UInt64 × UInt64 × UInt64) : Prop :=
  ∀ i : Fin 6, ⟨sequence, UInt64.ofNat i, words i⟩ ∈ history.filterMap KernelEvent.reads

instance (history : List KernelEvent) (sequence : UInt64)
    (words : Fin 6 → UInt64 × UInt64 × UInt64) : Decidable (Collects history sequence words) :=
  inferInstanceAs (Decidable (∀ _, _))

/-- The operation is one of the two that read the journal. -/
def TrapFrame.ReadsJournal (frame : TrapFrame) : Prop :=
  frame.operation = some .inspectEffectJournal ∨ frame.operation = some .readEffectRecord

/-- `after` is `before` but for four registers of the task. -/
def OutputOnly (task : UInt64) (before after : Runtime) : Prop :=
  ∃ rax rdi rsi rdx, after =
    Runtime.mapSlot task (TaskSlot.withContext { before.input task with rax, rdi, rsi, rdx }) before

namespace JournaledRuntime

/-- The word is a handle of the supervisor to read the journal. -/
def HoldsJournal (jr : JournaledRuntime) (handle : UInt64) : Prop :=
  ∃ entry, jr.runtime.task0.capabilities.resolveTyped senderTaskId jr.runtime.task0.generation
    handle objectTypeEffectJournal capabilityRightReadEffectJournal = .ok entry

/-- The journal of `jr`, reached by `history`, is append-only and read back as it was written. -/
structure ReadBack (history : List KernelEvent) (jr : JournaledRuntime) : Prop where
  append_only : ∀ later jr', Steps (kernelSystem .journaled) (.journaled jr) later (.journaled jr') →
    KernelEvent.finishReclamation ∉ later → jr.journal.committed <+: jr'.journal.committed
  answered : ∀ (frame : TrapFrame) (root : UInt64), root ≠ 0 → jr.runtime.Running senderTaskId →
    jr.HoldsJournal frame.rdi → frame.operation = some .readEffectRecord → frame.rdx.toNat ≤ 5 →
    ∃ k₁ k',
      (KernelRuntime.captureTrap senderTaskId frame root jr.runtime.task0.generation).run
        (.journaled jr) = (.ok (), k₁) ∧
      (KernelRuntime.handleTrap senderTaskId).run k₁ = (.ok (.resume senderTaskId), k') ∧
      (k'.runtime.Told senderTaskId .ok ↔
        1 ≤ frame.rsi.toNat ∧ frame.rsi.toNat ≤ jr.journal.committedRecordCount)
  collected : ∀ sequence words, KernelEvent.finishReclamation ∉ history →
    Collects history sequence words →
    1 ≤ sequence.toNat ∧ ∃ record, jr.journal.committed[sequence.toNat - 1]? = some record ∧
      ∀ r, (∀ i : Fin 6, r.triplet i = words i) ↔ r = record
  reads_only : ∀ task frame outcome before after jr',
    KernelStep (.journaled jr) (.trap task frame outcome before after) (.journaled jr') →
    frame.ReadsJournal →
    outcome = .resume task ∧ OutputOnly task before after ∧
      jr' = { jr with runtime := after }

end JournaledRuntime

end MakopaVerified.TaskRuntime
