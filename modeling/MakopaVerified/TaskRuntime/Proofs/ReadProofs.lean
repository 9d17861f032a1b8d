import MakopaVerified.TaskRuntime.Reads
import MakopaVerified.TaskRuntime.Proofs.GrammarProofs

/-!
# The journal is append-only and read back faithfully

No call but the reclamation changes a committed record. A read of a record is answered with words
of the record, and the sixteen words of a record determine it; so whatever reads a history collects
for a record, they are that record.
-/

namespace MakopaVerified.TaskRuntime

open Foundation TaskRuntime.Runtime KernelRuntime JournaledRuntime

/-! ## The words of a record -/

namespace EffectRecord

theorem packWord_toNat (low high : UInt32) :
    (packWord low high).toNat = high.toNat * 2 ^ 32 + low.toNat := by
  have hlow := low.toNat_lt
  have hhigh := high.toNat_lt
  unfold packWord
  have hshift : (high.toUInt64 <<< 32).toNat = high.toNat <<< 32 := by
    rw [UInt64.toNat_shiftLeft, UInt32.toNat_toUInt64]
    apply Nat.mod_eq_of_lt
    show high.toNat <<< 32 < 2 ^ 64
    rw [Nat.shiftLeft_eq]
    omega
  rw [UInt64.toNat_or, hshift, UInt32.toNat_toUInt64, Nat.or_comm,
    ← Nat.shiftLeft_add_eq_or_of_lt hlow, Nat.shiftLeft_eq]

theorem packWord_inj {low high low' high' : UInt32}
    (h : packWord low high = packWord low' high') : low = low' ∧ high = high' := by
  have hnat := congrArg UInt64.toNat h
  rw [packWord_toNat, packWord_toNat] at hnat
  have hlow := low.toNat_lt
  have hlow' := low'.toNat_lt
  constructor
  · rw [← UInt32.toNat_inj]
    omega
  · rw [← UInt32.toNat_inj]
    omega

/-- The six triplets determine a record. -/
theorem triplets_injective {r r' : EffectRecord} (h : ∀ i : Fin 6, r.triplet i = r'.triplet i) :
    r = r' := by
  obtain ⟨h0, h1⟩ := Prod.mk.inj (show (packWord r.schemaVersion r.byteSize,
    packWord r.eventKind r.status, r.recordSequence) = (packWord r'.schemaVersion r'.byteSize,
    packWord r'.eventKind r'.status, r'.recordSequence) from h 0)
  obtain ⟨h1, h2⟩ := Prod.mk.inj h1
  obtain ⟨h3, h4⟩ := Prod.mk.inj (show (r.decisionEpoch, r.principalId, r.actorTaskId) =
    (r'.decisionEpoch, r'.principalId, r'.actorTaskId) from h 1)
  obtain ⟨h4, h5⟩ := Prod.mk.inj h4
  obtain ⟨h6, h7⟩ := Prod.mk.inj (show (r.actorTaskGeneration, r.subjectTaskId,
    r.subjectTaskGeneration) = (r'.actorTaskGeneration, r'.subjectTaskId,
    r'.subjectTaskGeneration) from h 2)
  obtain ⟨h7, h8⟩ := Prod.mk.inj h7
  obtain ⟨h9, h10⟩ := Prod.mk.inj (show (r.requestSequence, r.actionId,
    packWord r.capabilityObjectType r.reservedZero) = (r'.requestSequence, r'.actionId,
    packWord r'.capabilityObjectType r'.reservedZero) from h 3)
  obtain ⟨h10, h11⟩ := Prod.mk.inj h10
  obtain ⟨h12, h13⟩ := Prod.mk.inj (show (r.capabilityObjectId, r.capabilityObjectGeneration,
    r.capabilityRights) = (r'.capabilityObjectId, r'.capabilityObjectGeneration,
    r'.capabilityRights) from h 4)
  obtain ⟨h13, h14⟩ := Prod.mk.inj h13
  have h15 : r.trailingReservedZero = r'.trailingReservedZero := congrArg Prod.fst (h 5)
  obtain ⟨h00, h01⟩ := packWord_inj h0
  obtain ⟨h10', h11'⟩ := packWord_inj h1
  obtain ⟨h110, h111⟩ := packWord_inj h11
  cases r
  cases r'
  simp_all

end EffectRecord

/-! ## The journal -/

namespace EffectJournal

variable {j : EffectJournal} {sequence triplet : UInt64} {r : EffectRecord}

theorem getElem?_committed {i : Nat} (hi : i < j.committedRecordCount) :
    j.committed[i]? = j.records[i]? := by
  unfold committed
  rw [List.getElem?_take_of_lt hi]
  exact (Vector.getElem?_toList ..)

theorem JournalOk.count_le (h : j.JournalOk) :
    j.committedRecordCount ≤ effectJournalRecordCount :=
  Nat.le_trans (Nat.le_add_right _ _) h.capacity

/-- A committed record carries its own number. -/
theorem JournalOk.recordSequence (h : j.JournalOk) {i : Nat} (hget : j.committed[i]? = some r) :
    r.recordSequence.toNat = i + 1 := by
  have hlt : i < j.committedRecordCount := by
    have hlen := (List.getElem?_eq_some_iff.mp hget).1
    rwa [length_committed h.count_le] at hlen
  have hcount := h.count_le
  have hi : i < effectJournalRecordCount := by omega
  rw [getElem?_committed hlt, Vector.getElem?_eq_getElem hi] at hget
  obtain rfl := Option.some.inj hget
  have hok := h.records i hi
  unfold RecordOk at hok
  rw [if_pos hlt] at hok
  have hcap : effectJournalRecordCount = 16 := rfl
  have hofNat : (UInt64.ofNat i).toNat = i := by
    rw [UInt64.toNat_ofNat_of_lt']
    show i < 2 ^ 64
    omega
  rw [hok.2, toNat_add_of_lt (by rw [hofNat]; show i + 1 < 2 ^ 64; omega), hofNat]
  rfl

/-- `record` finds the committed records by their sequence and nothing else. -/
theorem JournalOk.record_eq_ok (h : j.JournalOk) :
    j.record sequence = .ok r ↔
      1 ≤ sequence.toNat ∧ j.committed[sequence.toNat - 1]? = some r := by
  have hcount := h.count_le
  unfold record
  rw [if_neg (not_not.mpr h.state)]
  cases hvalue : checkedSub sequence 1 with
  | none =>
    have hlt : sequence.toNat < 1 := checkedSub_eq_none.mp hvalue
    simp only [reduceCtorEq, false_iff, not_and]
    omega
  | some value =>
    have hsub : sequence.toNat = value.toNat + 1 := checkedSub_eq_some.mp hvalue
    have hpred : sequence.toNat - 1 = value.toNat := by omega
    rw [hpred]
    dsimp only
    by_cases hlt : value.toNat < j.committedRecordCount
    · rw [if_pos hlt]
      have hget := getElem?_committed hlt
      rw [Vector.getElem?_eq_getElem (show value.toNat < effectJournalRecordCount by omega)] at hget
      rw [Vector.getElem?_eq_getElem (show value.toNat < effectJournalRecordCount by omega), hget]
      have hseq := h.recordSequence hget
      dsimp only
      rw [if_neg (not_not.mpr (UInt64.toNat_inj.mp (hseq.trans hsub.symm)))]
      rw [Except.ok.injEq, Option.some.injEq]
      exact ⟨fun he => ⟨by omega, he⟩, And.right⟩
    · rw [if_neg hlt]
      simp only [reduceCtorEq, false_iff, not_and]
      intro _ hget
      have hlen := (List.getElem?_eq_some_iff.mp hget).1
      rw [length_committed hcount] at hlen
      exact hlt hlen

theorem JournalOk.readTriplet_eq_ok (h : j.JournalOk)
    {words : UInt64 × UInt64 × UInt64} :
    j.readTriplet sequence triplet = .ok words ↔
      triplet.toNat ≤ 5 ∧ 1 ≤ sequence.toNat ∧
        ∃ r, j.committed[sequence.toNat - 1]? = some r ∧ words = r.triplet triplet.toNat := by
  unfold readTriplet
  by_cases hle : triplet.toNat ≤ 5
  · rw [if_pos hle]
    cases hr : j.record sequence with
    | error e =>
      simp only [reduceCtorEq, false_iff]
      rintro ⟨-, hone, r, hget, -⟩
      rw [h.record_eq_ok.mpr ⟨hone, hget⟩] at hr
      cases hr
    | ok r =>
      obtain ⟨hone, hget⟩ := h.record_eq_ok.mp hr
      constructor
      · intro hwords
        exact ⟨hle, hone, r, hget, (Except.ok.inj hwords).symm⟩
      · rintro ⟨-, -, r', hget', rfl⟩
        obtain rfl := Option.some.inj (hget.symm.trans hget')
        rfl
  · rw [if_neg hle]
    simp [hle]

end EffectJournal

/-! ## Committed records stay -/

/-- The committed records of a journaled runtime. -/
def KernelRuntime.committed : KernelRuntime → List EffectRecord
  | .base _ => []
  | .journaled jr => jr.journal.committed

/-- No step but the reclamation touches a committed record. -/
theorem committed_prefix_step {k k' : KernelRuntime} {e : KernelEvent}
    (h : KernelInv .journaled k) (hs : KernelStep k e k')
    (hne : e ≠ KernelEvent.finishReclamation) : k.committed <+: k'.committed := by
  have he := h.step hs
  have hinv' := h.effect he
  cases h with
  | @journaled jr inv =>
    cases hinv' with
    | @journaled jr' inv' =>
      cases inv.journal_step he with
      | unchanged same =>
        have hsame : jr'.journal.committed = jr.journal.committed := same
        show jr.journal.committed <+: jr'.journal.committed
        rw [hsame]
      | recorded live adds | closed live adds =>
        exact ⟨_, (show jr'.journal.committed = _ from adds).symm⟩
      | reclaimed => exact absurd rfl hne

theorem committed_prefix_steps {k k' : KernelRuntime} {later : List KernelEvent}
    (h : KernelInv .journaled k) (hs : Steps (kernelSystem .journaled) k later k')
    (hno : KernelEvent.finishReclamation ∉ later) : k.committed <+: k'.committed := by
  induction hs with
  | nil => exact List.prefix_refl _
  | cons hstep _ ih =>
    rw [List.mem_cons, not_or] at hno
    have hfirst := committed_prefix_step h hstep fun he => hno.1 he.symm
    exact hfirst.trans (ih (h.effect (h.step hstep)) hno.2)

/-! ## The answer of a read -/

theorem Runtime.resolveObject_of_resolveTyped {rt : Runtime}
    {task handle right objectId objectGeneration : UInt64} {objectType : UInt32}
    {entry : CapabilityEntry} (hk : KnownTask task)
    (hres : (rt.slotOf task).capabilities.resolveTyped task (rt.slotOf task).generation handle
      objectType right = .ok entry)
    (hid : entry.object.id = objectId) (hgen : entry.object.generation = objectGeneration)
    (hne : objectGeneration ≠ 0) :
    rt.resolveObject task handle objectType right objectId objectGeneration = .ok () := by
  unfold resolveObject
  rw [slot_of_known hk]
  dsimp only
  rw [hres]
  dsimp only
  rw [if_neg]
  rintro (hbad | hbad | hbad)
  · exact hbad hid
  · exact hbad hgen
  · exact hne hbad

namespace JournaledRuntime

variable {jr : JournaledRuntime} {task : UInt64} {words : UInt64 × UInt64 × UInt64}

theorem journalStatus_ne_ok (e : EffectJournalError) : journalStatus e ≠ .ok := by
  cases e with
  | full | unavailable | invariant | invalidRecord =>
    unfold journalStatus
    decide

theorem journalReadStatus_ne_ok (hk : KnownTask task) (operation : TrapOperation)
    (input : TaskContext) : jr.journalReadStatus task operation input ≠ some .ok := by
  unfold journalReadStatus
  split
  · decide
  · split
    · rename_i status hres
      intro hok
      have hmem := resolveObject_error hk hres
      rw [Option.some.inj hok] at hmem
      exact absurd hmem (by decide)
    · split <;> decide

/-- A read of a record is answered `Ok` if it is not rejected and the journal has the record. -/
theorem readAnswer_eq_ok (hk : KnownTask task) :
    jr.readAnswer task .readEffectRecord = (.ok, words) ↔
      jr.journalReadStatus task .readEffectRecord (jr.runtime.input task) = none ∧
      jr.journal.readTriplet (jr.runtime.input task).rsi (jr.runtime.input task).rdx = .ok words := by
  unfold readAnswer
  cases hstatus : jr.journalReadStatus task .readEffectRecord (jr.runtime.input task) with
  | some status =>
    simp only [reduceCtorEq, false_and, iff_false, Prod.mk.injEq, not_and]
    intro hok
    exact absurd (hok ▸ hstatus) (journalReadStatus_ne_ok hk _ _)
  | none =>
    dsimp only
    rw [if_neg (by decide)]
    cases hwords : jr.journal.readTriplet (jr.runtime.input task).rsi
        (jr.runtime.input task).rdx with
    | ok words' => simp
    | error e => simp [journalStatus_ne_ok]

/-- What the caller is told is the answer. -/
theorem told_afterRead (hk : KnownTask task) (answer : TrapStatus × UInt64 × UInt64 × UInt64)
    (status : TrapStatus) :
    (jr.afterRead task answer).runtime.Told task status ↔ answer.1 = status := by
  have hinput : ((jr.afterRead task answer).runtime.input task).rax = answer.1.code := by
    rcases hk with rfl | rfl <;> rfl
  unfold Runtime.Told
  rw [hinput, TrapStatus.code_inj]

theorem words_afterRead (hk : KnownTask task) (answer : TrapStatus × UInt64 × UInt64 × UInt64) :
    (((jr.afterRead task answer).runtime.input task).rdi,
      ((jr.afterRead task answer).runtime.input task).rsi,
      ((jr.afterRead task answer).runtime.input task).rdx) = answer.2 := by
  rcases hk with rfl | rfl <;> rfl

end JournaledRuntime

/-! ## Reads -/

theorem TrapFrame.ReadsJournal.exists_operation {frame : TrapFrame} (h : frame.ReadsJournal) :
    ∃ operation, frame.operation = some operation ∧
      (operation = .inspectEffectJournal ∨ operation = .readEffectRecord) := by
  rcases h with hop | hop
  · exact ⟨_, hop, .inl rfl⟩
  · exact ⟨_, hop, .inr rfl⟩

/-- The words of the read are those of the committed record that it names. -/
def ReadOf (jr : JournaledRuntime) (rd : RecordRead) : Prop :=
  rd.triplet.toNat ≤ 5 ∧ 1 ≤ rd.sequence.toNat ∧
    ∃ r, jr.journal.committed[rd.sequence.toNat - 1]? = some r ∧ rd.words = r.triplet rd.triplet.toNat

/-- All reads of a history are reads of the committed records. -/
def ReadsKept (history : List KernelEvent) (jr : JournaledRuntime) : Prop :=
  ∀ rd ∈ history.filterMap KernelEvent.reads, ReadOf jr rd

section Captured

variable {rt : Runtime} {task root : UInt64} {frame : TrapFrame}

theorem Runtime.captured_rsi (hk : KnownTask task) :
    ((rt.captured task root frame).input task).rsi = frame.rsi := by
  rcases hk with rfl | rfl <;> rfl

theorem Runtime.captured_rdx (hk : KnownTask task) :
    ((rt.captured task root frame).input task).rdx = frame.rdx := by
  rcases hk with rfl | rfl <;> rfl

end Captured

namespace JInv

variable {jr : JournaledRuntime} {task : UInt64}

theorem journal_ok_running (h : JInv jr) (hr : jr.runtime.Running task) :
    jr.journal.JournalOk := by
  rcases h.journal with hdead | hok
  · exact absurd (by rw [hdead]; rfl) (h.not_dead hr)
  · exact hok

/-- A trap with a read operation is answered and changes nothing but the caller's registers. -/
theorem read_step (h : JInv jr) {frame : TrapFrame} {outcome : TrapOutcome}
    {before after : Runtime} {k' : KernelRuntime} {operation : TrapOperation}
    (hs : KernelStep (.journaled jr) (.trap task frame outcome before after) k')
    (op : frame.operation = some operation)
    (hread : operation = .inspectEffectJournal ∨ operation = .readEffectRecord) :
    jr.runtime.Running task ∧ outcome = .resume task ∧ ∃ root, root ≠ 0 ∧
      before = jr.runtime.captured task root frame ∧
      k' = .journaled (({ jr with runtime := before } : JournaledRuntime).afterRead task
        (({ jr with runtime := before } : JournaledRuntime).readAnswer task operation)) ∧
      after = k'.runtime := by
  obtain ⟨hr, root, hroot, rfl, hafter, hhandle⟩ := (KernelInv.journaled h).trap_step hs
  have hrun := run_handleTrap_read (h.captured hr hroot) hr.captured
    ((captured_operation hr.known).trans op) hread
  have hsame := Method.run_ok_inj (run_call_journaled hrun) hhandle
  exact ⟨hr, hsame.1.symm, root, hroot, rfl, hsame.2.symm, hafter⟩

/-- A handle to read the journal names the journal. -/
theorem journalReadStatus_eq_none (h : JInv jr) (hr : jr.runtime.Running senderTaskId)
    (input : TaskContext) (hholds : jr.HoldsJournal input.rdi) :
    jr.journalReadStatus senderTaskId .readEffectRecord input = none := by
  obtain ⟨entry, hres⟩ := hholds
  obtain ⟨-, -, -, i, -, -, hentry, -, -, htype, -⟩ := CapabilityTable.resolveTyped_eq_ok.mp hres
  have hmem : entry ∈ JournaledRuntime.journalEntries jr.runtime.task0.capabilities := by
    unfold JournaledRuntime.journalEntries
    rw [List.mem_filter, List.mem_filterMap]
    refine ⟨⟨_, ?_, hentry⟩, decide_eq_true htype⟩
    rw [Vector.mem_toList_iff]
    exact Vector.getElem_mem _
  obtain ⟨-, hid, hgen⟩ := h.entries_fixed entry hmem
  have hj := h.journal_ok_running hr
  have hobject : jr.runtime.resolveObject senderTaskId input.rdi objectTypeEffectJournal
      capabilityRightReadEffectJournal effectJournalObjectId jr.journal.objectGeneration =
      .ok () := by
    rw [hj.generation]
    exact resolveObject_of_resolveTyped (.inl rfl) hres hid hgen (by decide)
  unfold JournaledRuntime.journalReadStatus
  rw [if_neg (by rintro ⟨hbad, -⟩; cases hbad), hobject]
  dsimp only
  rw [if_neg (not_not.mpr hj.state)]

/-- The holder of the journal handle reads the committed records and no others. -/
theorem read_ok_iff (h : JInv jr) {root : UInt64} {frame : TrapFrame}
    (hr : jr.runtime.Running senderTaskId) (hroot : root ≠ 0) (hholds : jr.HoldsJournal frame.rdi)
    (hle : frame.rdx.toNat ≤ 5) :
    (({ jr with runtime := jr.runtime.captured senderTaskId root frame } :
      JournaledRuntime).readAnswer senderTaskId .readEffectRecord).1 = .ok ↔
      1 ≤ frame.rsi.toNat ∧ frame.rsi.toNat ≤ jr.journal.committedRecordCount := by
  have hj := h.journal_ok_running hr
  have hlen := EffectJournal.length_committed hj.count_le
  have hk : KnownTask senderTaskId := .inl rfl
  have hinv : JInv { jr with runtime := jr.runtime.captured senderTaskId root frame } :=
    h.captured hr hroot
  have hstatus := hinv.journalReadStatus_eq_none hr.captured
    ((jr.runtime.captured senderTaskId root frame).input senderTaskId) hholds
  constructor
  · intro hok
    obtain ⟨-, hread⟩ := (readAnswer_eq_ok hk).mp (Prod.ext hok rfl)
    rw [captured_rsi hk, captured_rdx hk] at hread
    obtain ⟨-, hone, r, hget, -⟩ := hj.readTriplet_eq_ok.mp hread
    have hlt := (List.getElem?_eq_some_iff.mp hget).1
    omega
  · rintro ⟨hone, hcount⟩
    have hlt : frame.rsi.toNat - 1 < jr.journal.committed.length := by omega
    have hread := hj.readTriplet_eq_ok.mpr
      ⟨hle, hone, _, List.getElem?_eq_getElem hlt, rfl⟩
    have hanswer := (readAnswer_eq_ok hk).mpr ⟨hstatus, hread⟩
    exact congrArg Prod.fst hanswer

/-- A read that is answered `Ok` has returned words of a committed record. -/
theorem reads_committed (h : JInv jr) {e : KernelEvent} {k' : KernelRuntime} {rd : RecordRead}
    (hs : KernelStep (.journaled jr) e k') (hrd : e.reads = some rd) :
    ReadOf jr rd := by
  cases e with
  | beginTeardown | completeTeardown | finishReclamation => cases hrd
  | trap task frame outcome before after =>
    -- the event is a read only when the caller is told `Ok`
    have hcond := Option.ite_none_right_eq_some.mp
      (show (if frame.operation = some .readEffectRecord ∧ after.Told task .ok then
          some (⟨frame.rsi, frame.rdx, ((after.input task).rdi, (after.input task).rsi,
            (after.input task).rdx)⟩ : RecordRead)
        else none) = some rd from hrd)
    obtain ⟨⟨hop, htold⟩, hrd⟩ := hcond
    obtain rfl := Option.some.inj hrd
    obtain ⟨hr, -, root, -, rfl, rfl, rfl⟩ := h.read_step hs hop (.inr rfl)
    have hk := hr.known
    have hanswer := (told_afterRead hk _ _).mp htold
    obtain ⟨-, hread⟩ := (readAnswer_eq_ok hk).mp (Prod.ext hanswer rfl)
    rw [captured_rsi hk, captured_rdx hk] at hread
    obtain ⟨hle, hone, r, hget, hwords⟩ := (h.journal_ok_running hr).readTriplet_eq_ok.mp hread
    exact ⟨hle, hone, r, hget, (words_afterRead hk _).trans hwords⟩

end JInv

/-! ## Collected reads -/

theorem readsKept_step {history : List KernelEvent} {jr jr' : JournaledRuntime} {e : KernelEvent}
    (h : JInv jr) (hkept : ReadsKept history jr)
    (hs : KernelStep (.journaled jr) e (.journaled jr'))
    (hne : e ≠ KernelEvent.finishReclamation) : ReadsKept (history ++ [e]) jr' := by
  -- a committed record stays at its place
  have hstays : ∀ {i : Nat} {r : EffectRecord}, jr.journal.committed[i]? = some r →
      jr'.journal.committed[i]? = some r := by
    intro i r hget
    obtain ⟨added, hadded⟩ := committed_prefix_step (.journaled h) hs hne
    have hadded : jr.journal.committed ++ added = jr'.journal.committed := hadded
    have hlt := (List.getElem?_eq_some_iff.mp hget).1
    rw [← hadded, List.getElem?_append_left hlt, hget]
  intro rd hmem
  rw [List.filterMap_append, List.mem_append] at hmem
  have hread : ReadOf jr rd := by
    rcases hmem with hold | hnew
    · exact hkept rd hold
    · rw [List.mem_filterMap] at hnew
      obtain ⟨e', hmem, hrd⟩ := hnew
      obtain rfl := List.mem_singleton.mp hmem
      exact h.reads_committed hs hrd
  obtain ⟨hle, hone, r, hget, hwords⟩ := hread
  exact ⟨hle, hone, r, hstays hget, hwords⟩

theorem readsKept_run {history : List KernelEvent} {k : KernelRuntime}
    (h : Run (kernelSystem .journaled) history k)
    (hno : KernelEvent.finishReclamation ∉ history) :
    ∀ jr, k = .journaled jr → ReadsKept history jr := by
  induction h with
  | start hinit =>
    intro jr _ rd hmem
    cases hmem
  | @step history k k' e hrun hstep ih =>
    rintro jr' rfl
    rw [List.mem_append, not_or, List.mem_singleton] at hno
    cases KernelInv.run hrun with
    | journaled inv =>
      exact readsKept_step inv (ih hno.1 _ rfl) hstep fun he => hno.2 he.symm

/-- In every run of the journaled profile the committed records stay until the reclamation. The
holder of the journal handle reads each of them and no other, whatever it collects for a record is
that record, and a read changes nothing but the caller's registers. -/
theorem journal_read_back {history : List KernelEvent} {jr : JournaledRuntime}
    (hrun : Run (kernelSystem .journaled) history (.journaled jr)) : jr.ReadBack history := by
  have hinv := KernelInv.run hrun
  have h : JInv jr := by
    cases hinv with
    | journaled inv => exact inv
  constructor
  case append_only =>
    intro later jr' hsteps hno
    exact committed_prefix_steps hinv hsteps hno
  case answered =>
    intro frame root hroot hr hholds hop hle
    have hk := hr.known
    have hread := run_handleTrap_read (h.captured hr hroot) hr.captured
      ((captured_operation hk).trans hop) (.inr rfl)
    refine ⟨_, _, run_captureTrap (k := .journaled jr) hr,
      run_call_journaled hread, ?_⟩
    exact (told_afterRead hk _ _).trans (h.read_ok_iff hr hroot hholds hle)
  case collected =>
    intro sequence words hno hcollects
    have hread : ∀ i : Fin 6, ReadOf jr ⟨sequence, UInt64.ofNat i, words i⟩ :=
      fun i => readsKept_run hrun hno jr rfl _ (hcollects i)
    obtain ⟨-, hone, record, hget, -⟩ := hread 0
    have hwords : ∀ i : Fin 6, words i = record.triplet i := by
      intro i
      obtain ⟨-, -, r, hget', hw⟩ := hread i
      obtain rfl := Option.some.inj (hget.symm.trans hget')
      have hofNat : (UInt64.ofNat i).toNat = i := UInt64.toNat_ofNat_of_lt' (i.isLt.trans (by decide))
      rw [← hofNat]
      exact hw
    refine ⟨hone, record, hget, fun r => ⟨fun hr => ?_, ?_⟩⟩
    · exact EffectRecord.triplets_injective fun i => (hr i).trans (hwords i)
    · rintro rfl i
      exact (hwords i).symm
  case reads_only =>
    intro task frame outcome before after jr' hs hreads
    obtain ⟨operation, hop, hread⟩ := hreads.exists_operation
    obtain ⟨hr, houtcome, root, hroot, hbefore, hk', rfl⟩ := h.read_step hs hop hread
    obtain rfl := KernelRuntime.journaled.inj hk'
    exact ⟨houtcome, ⟨_, _, _, _, rfl⟩, rfl⟩

/-- The workload asks for an approval, and the supervisor reads the record of the request. -/
theorem request_record_read_back :
    ∃ history jr, Run (kernelSystem .journaled) history (.journaled jr) ∧
      (∃ record ∈ jr.journal.committed, Collects history 1 fun i => record.triplet i) ∧
      jr.ReadBack history := by
  have hexec : ∃ r ∈ KernelRuntime.execute .journaled (.start senderTaskId supervisorGeneration)
      (.start receiverTaskId workloadGeneration)
      [.request 6 16 1 0, .request 0 0 0 0, .request 7 16 1 99, .request 12 19 1 3,
        .request 12 19 1 0, .request 12 19 1 1, .request 12 19 1 2, .request 11 19 0 0,
        .request 12 19 1 4, .request 12 19 1 5],
      ∃ record ∈ r.2.committed, Collects r.1 1 fun i => record.triplet i := by
    decide +kernel
  obtain ⟨⟨history, k⟩, hmem, hcollects⟩ := hexec
  have hrun := execute_run hmem
  cases KernelInv.run hrun with
  | @journaled jr inv => exact ⟨history, jr, hrun, hcollects, journal_read_back hrun⟩

end MakopaVerified.TaskRuntime
