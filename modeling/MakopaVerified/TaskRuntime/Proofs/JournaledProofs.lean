import MakopaVerified.TaskRuntime.Proofs.JournalProofs
import MakopaVerified.TaskRuntime.Proofs.SupervisedStepProofs
import MakopaVerified.TaskRuntime.Journaled

/-!
# What `JournaledRuntime::validate` accepts

The check of the journaled runtime as a proposition, the journal entries of a capability table, and
the run equations of the calls that the wrapper makes on its two halves.
-/

namespace MakopaVerified.TaskRuntime

open Foundation Method CapabilityTable

namespace JournaledRuntime

/-! ## `validate` -/

/-- The records that an open request may still need. -/
def reservation : ApprovalBrokerState → Nat
  | .pending => 2
  | .approved => 1
  | _ => 0

/-- The match on the journal state in `validate`. -/
def JournalStateOk (jr : JournaledRuntime) : Prop :=
  match jr.journal.state with
  | .building => False
  | .live => ¬ (jr.runtime.task0.state = .dead ∧ jr.runtime.task1.state = .dead)
      ∧ jr.journal.reservedRecordCount = reservation jr.runtime.broker.state
  | .sealed => jr.journal.reservedRecordCount = 0 ∧ jr.runtime.broker.requestPresent = false
      ∧ jr.runtime.broker.state ≠ .pending ∧ jr.runtime.broker.state ≠ .approved
  | .dead => (jr.runtime.task0.state = .dead ∧ jr.runtime.task1.state = .dead)
      ∧ (journalEntries jr.runtime.task0.capabilities).length = 0

/-- The one journal entry that a table may hold. -/
def EntryFixed (entry : CapabilityEntry) : Prop :=
  entry.rights = capabilityRightReadEffectJournal ∧ entry.object.id = effectJournalObjectId
    ∧ entry.object.generation = effectJournalObjectGeneration

/-- A journaled runtime that passes `validate`. -/
structure JValid (jr : JournaledRuntime) : Prop where
  runtime : Valid jr.runtime
  journal : jr.journal = EffectJournal.dead ∨ jr.journal.JournalOk
  supervisor_entries : (journalEntries jr.runtime.task0.capabilities).length ≤ 1
  workload_entries : (journalEntries jr.runtime.task1.capabilities).length = 0
  entries_fixed : ∀ entry ∈ journalEntries jr.runtime.task0.capabilities, EntryFixed entry
  journal_state : JournalStateOk jr
  workload_dead : jr.runtime.task1.state = .dead →
    jr.journal.state = .sealed ∨ jr.journal.state = .dead

theorem checkJournalState_eq_ok {jr : JournaledRuntime} :
    checkJournalState jr = .ok () ↔ JournalStateOk jr := by
  unfold checkJournalState JournalStateOk
  cases jr.journal.state with
  | building => simp
  | live =>
    dsimp only
    rw [check_ite_eq_ok, check_ite_eq_ok]
    simp only [Runtime.tasks, List.all_cons, List.all_nil, Bool.and_true, Bool.and_eq_true,
      decide_eq_true_eq, and_true, not_not, ne_eq]
    cases jr.runtime.broker.state <;> rfl
  | sealed =>
    dsimp only
    rw [check_ite_eq_ok]
    simp only [not_or, not_not, ne_eq, Bool.not_eq_true, and_true]
  | dead =>
    dsimp only
    rw [check_ite_eq_ok]
    simp only [Runtime.tasks, List.any_cons, List.any_nil, Bool.or_false, Bool.or_eq_true,
      decide_eq_true_eq, not_or, not_not, ne_eq, and_true]

theorem validate_eq_ok {jr : JournaledRuntime} : jr.validate = .ok () ↔ JValid jr := by
  have hjournal : (jr.journal.validate).mapError (fun _ => RuntimeError.journalInvariant) = .ok () ↔
      jr.journal.validate = .ok () := by
    cases jr.journal.validate with
    | error e => simp [Except.mapError]
    | ok u => simp [Except.mapError]
  unfold validate
  rw [unit_bind_eq_ok, unit_bind_eq_ok, check_ite_eq_ok, check_ite_eq_ok, unit_bind_eq_ok,
    check_ite_eq_ok, checkJournalState_eq_ok, hjournal, TaskRuntime.validate_eq_ok,
    EffectJournal.validate_eq_ok]
  simp only [not_or, not_and, not_not, ne_eq, List.any_eq_true, decide_eq_true_eq, not_exists,
    Nat.not_lt, gt_iff_lt, and_true]
  constructor
  · rintro ⟨h1, h2, ⟨h3, h4⟩, h5, h6, h7⟩
    exact ⟨h1, h2, h3, h4, fun entry he => h5 entry he, h6,
      fun hd => or_iff_not_imp_left.mpr (h7 hd)⟩
  · intro h
    exact ⟨h.runtime, h.journal, ⟨h.supervisor_entries, h.workload_entries⟩,
      fun entry he => h.entries_fixed entry he, h.journal_state,
      fun hd => or_iff_not_imp_left.mp (h.workload_dead hd)⟩

/-! ## Calls on the two halves -/

section Calls

variable {α : Type} {jr : JournaledRuntime}

theorem run_onRuntime (jr : JournaledRuntime) {m : Method Runtime RuntimeError α} {r : Except RuntimeError α}
    {rt' : Runtime} (h : m.run jr.runtime = (r, rt')) :
    (onRuntime m).run jr = (r, { jr with runtime := rt' }) := by
  unfold onRuntime
  rw [run_onPart, h]
  cases r <;> rfl

theorem run_onJournal (jr : JournaledRuntime) {m : Method EffectJournal EffectJournalError α}
    {r : Except EffectJournalError α} {j' : EffectJournal} (h : m.run jr.journal = (r, j')) :
    (onJournal m).run jr = (.ok r, { jr with journal := j' }) := by
  unfold onJournal
  rw [run_onPart, run_attempt_of h]

/-- The last check passes, or everything is as it was before the call. -/
theorem run_validateOrRestore_cases (before jr : JournaledRuntime) :
    (jr.validate = .ok () ∧ (validateOrRestore before).run jr = (.ok (), jr)) ∨
      ((validateOrRestore before).run jr = (.error .journalInvariant, before)) := by
  have hquery : (attempt (query validate) :
      Method JournaledRuntime RuntimeError _).run jr = (.ok jr.validate, jr) :=
    run_attempt_of (by rw [run_query])
  unfold validateOrRestore
  rw [run_bind_ok hquery]
  rcases hv : jr.validate with e | u
  · exact .inr rfl
  · exact .inl ⟨rfl, rfl⟩

theorem run_validateOrRestore (before : JournaledRuntime) (hv : jr.validate = .ok ()) :
    (validateOrRestore before).run jr = (.ok (), jr) := by
  have hquery : (attempt (query validate) :
      Method JournaledRuntime RuntimeError _).run jr = (.ok (.ok ()), jr) :=
    run_attempt_of (by rw [run_query, hv])
  unfold validateOrRestore
  rw [run_bind_ok hquery]
  rfl

theorem run_finishTrap (before : JournaledRuntime) (outcome : TrapOutcome)
    (hv : jr.validate = .ok ()) : (finishTrap before outcome).run jr = (.ok outcome, jr) := by
  unfold finishTrap
  rw [run_bind_ok (run_validateOrRestore before hv)]
  rfl

theorem run_appendOrRestore (before : JournaledRuntime) {record : EffectRecord}
    (h : jr.journal.JournalOk) (hlive : jr.journal.state = .live)
    (hres : jr.journal.reservedRecordCount ≠ 0) (hr : EffectJournal.Fresh record) (release : Bool) :
    (appendOrRestore before record release).run jr =
      (.ok (), { jr with
        journal := EffectJournal.appended record
          (if release then 0 else jr.journal.reservedRecordCount - 1) jr.journal }) := by
  unfold appendOrRestore
  rw [run_bind_ok
    (run_onJournal jr (EffectJournal.run_appendReserved h hlive hres hr release))]
  rfl

end Calls

/-! ## The journal entries of a table -/

section Entries

variable {t : CapabilityTable}

/-- The journal entry of one slot, if it has one. -/
def journalEntry (s : CapabilitySlot) : Option CapabilityEntry :=
  s.entry.filter (·.objectType = objectTypeEffectJournal)

theorem journalEntries_eq (t : CapabilityTable) :
    journalEntries t = t.slots.toList.filterMap journalEntry := by
  unfold journalEntries
  rw [List.filter_filterMap]
  rfl

theorem journalEntries_set {i : Fin capabilitySlotCount} {slot : CapabilitySlot}
    (h : journalEntry slot = none) :
    (journalEntries { t with slots := t.slots.set i slot i.isLt }).Sublist (journalEntries t) := by
  rw [journalEntries_eq, journalEntries_eq, Vector.toList_set]
  exact filterMap_set_sublist h

theorem duplicated_entries {requested : UInt64} {t' : CapabilityTable}
    (h : CapabilityTable.Duplicated requested t t') :
    (journalEntries t').Sublist (journalEntries t) := by
  obtain ⟨-, source, i, entry, -, -, htype, -, -, rfl⟩ := h
  have hne : entry.objectType ≠ objectTypeEffectJournal := by
    rw [htype]
    decide
  apply journalEntries_set
  unfold journalEntry
  rw [Option.filter_some, if_neg]
  simpa using hne

theorem closed_entries {t' : CapabilityTable} (h : CapabilityTable.Closed t t') :
    (journalEntries t').Sublist (journalEntries t) := by
  obtain ⟨-, i, -, rfl⟩ := h
  apply journalEntries_set
  unfold journalEntry
  rw [removeEntry_entry]
  rfl

theorem launched_entries {t' : CapabilityTable} (h : CapabilityTable.Launched t t') :
    (journalEntries t').Sublist (journalEntries t) := by
  obtain ⟨-, i, -, rfl⟩ := h
  exact journalEntries_set (t := t) rfl

theorem journalEntries_of_empty (h : ∀ slot ∈ t.slots, slot.entry = none) :
    journalEntries t = [] := by
  rw [journalEntries_eq, List.filterMap_eq_nil_iff]
  intro slot hslot
  unfold journalEntry
  rw [h slot (Vector.mem_toList_iff.mp hslot)]
  rfl

theorem journalEntries_closed (t : CapabilityTable) : journalEntries t.closed = [] :=
  journalEntries_of_empty fun _ => closed_entry

theorem journalEntries_dead : journalEntries CapabilityTable.dead = [] := by decide

end Entries

end JournaledRuntime

end MakopaVerified.TaskRuntime
