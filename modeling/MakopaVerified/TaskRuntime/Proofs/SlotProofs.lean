import MakopaVerified.TaskRuntime.Proofs.RuntimeProofs

/-!
# Slots keep the shared part of `validate`

A slot stays acceptable when its registers change, when its table changes in place, and when its
task moves between live states while the queue follows. `Phase` is what `validate` does not say:
after the first dispatch exactly one task holds the processor, until both are dead.
-/

namespace MakopaVerified.TaskRuntime

open Foundation CapabilityTable

/-! ## One slot -/

/-- Registers that `validate` accepts in the slot `s`. -/
def ContextOk (s : TaskSlot) (c : TaskContext) : Prop :=
  (s.state = .dead → c.taskId = 0 ∧ c.generation = 0 ∧ c.root = 0) ∧
    (s.state ≠ .dead → c.taskId = s.id ∧ c.generation = s.generation ∧ c.root ≠ 0)

namespace SlotOk

variable {q q' : RunQueue} {s : TaskSlot}

theorem contextOk (h : SlotOk q s) : ContextOk s s.context := by
  refine ⟨?_, ?_⟩
  · intro hd
    obtain ⟨-, h2, h3, h4⟩ := h.dead_clear hd
    exact ⟨h2, h3, h4⟩
  · intro hd
    obtain ⟨-, h2, h3, h4, -, -⟩ := h.owned hd
    exact ⟨h2, h3, h4⟩

theorem withContext (h : SlotOk q s) {c : TaskContext} (hc : ContextOk s c) :
    SlotOk q (s.withContext c) where
  table_valid := h.table_valid
  ready_iff := h.ready_iff
  dead_clear hd := ⟨(h.dead_clear hd).1, hc.1 hd⟩
  owned hd := by
    obtain ⟨h1, -, -, -, h5, h6⟩ := h.owned hd
    obtain ⟨c1, c2, c3⟩ := hc.2 hd
    exact ⟨h1, c1, c2, c3, h5, h6⟩
  table_state := h.table_state

theorem answered (h : SlotOk q s) (status : TrapStatus) (value : UInt64) :
    SlotOk q (s.answered status value) :=
  h.withContext h.contextOk

theorem requeue (h : SlotOk q s) (hq : q'.contains s.id = q.contains s.id) : SlotOk q' s where
  table_valid := h.table_valid
  ready_iff := by rw [hq]; exact h.ready_iff
  dead_clear := h.dead_clear
  owned := h.owned
  table_state := h.table_state

/-- The table of a live task is live. -/
theorem table_live (h : SlotOk q s) (hl : s.state.isLive = true) :
    s.capabilities.state = .live := by
  have := h.table_state
  cases hs : s.state <;> rw [hs] at hl this <;> first | exact this | cases hl

theorem table_dead (h : SlotOk q s) (hd : s.state = .dead) : s.capabilities.state = .dead := by
  have := h.table_state
  rw [hd] at this
  exact this

theorem dead_of_table (h : SlotOk q s) (hd : s.capabilities.state = .dead) : s.state = .dead := by
  have hstate := h.table_state
  rw [hd] at hstate
  cases hs : s.state with
  | dead => rfl
  | exited =>
    rw [hs] at hstate
    rcases hstate with hbad | hbad <;> cases hbad
  | staged | ready | running | blockedReceive | blockedApproval =>
    rw [hs] at hstate
    cases hstate

theorem not_dead_of_live (hl : s.state.isLive = true) : s.state ≠ .dead := by
  intro hd
  rw [hd] at hl
  cases hl

/-- A live task moves to another live state, or exits, as the queue says. -/
theorem move (h : SlotOk q s) (hl : s.state.isLive = true) {state : TaskState}
    (hstate : state.isLive = true ∨ state = .exited)
    (hq : state = .ready ↔ q'.contains s.id = true) : SlotOk q' (s.withState state) where
  table_valid := h.table_valid
  ready_iff := hq
  dead_clear hd := by
    have hd' : state = .dead := hd
    subst hd'
    rcases hstate with h | h <;> cases h
  owned _ := h.owned (not_dead_of_live hl)
  table_state := by
    have hlive : s.capabilities.state = .live := h.table_live hl
    show TableStateOk state s.capabilities.state
    rw [hlive]
    rcases hstate with hl' | rfl
    · cases state <;> first | rfl | cases hl'
    · exact .inl rfl

/-- A table may change in place: same owner, same state, still valid. -/
theorem withTable (h : SlotOk q s) {t : CapabilityTable} (hv : t.validate = .ok ())
    (htask : t.taskId = s.capabilities.taskId)
    (hgen : t.taskGeneration = s.capabilities.taskGeneration)
    (hstate : t.state = s.capabilities.state) : SlotOk q (s.withTable t) where
  table_valid := hv
  ready_iff := h.ready_iff
  dead_clear := h.dead_clear
  owned hd := by
    obtain ⟨h1, h2, h3, h4, h5, h6⟩ := h.owned hd
    exact ⟨h1, h2, h3, h4, htask.trans h5, hgen.trans h6⟩
  table_state := by
    show TableStateOk s.state t.state
    rw [hstate]
    exact h.table_state

/-- The table of an exited task is closed. -/
theorem close (h : SlotOk q s) (hx : s.state = .exited) (hl : s.capabilities.state = .live) :
    SlotOk q (s.withTable s.capabilities.closed) where
  table_valid := by
    have hok : s.capabilities.TableOk :=
      (validate_eq_ok_of_not_dead (by rw [hl]; decide)).mp h.table_valid
    exact (validate_eq_ok_of_not_dead CapabilityTableState.noConfusion).mpr
      hok.closed
  ready_iff := h.ready_iff
  dead_clear := h.dead_clear
  owned := h.owned
  table_state := by
    show TableStateOk s.state .closing
    rw [hx]
    exact .inr rfl

/-- The slot of an exited task is cleared. -/
theorem buried (h : SlotOk q s) (hx : s.state = .exited) : SlotOk q s.buried where
  table_valid := validate_dead
  ready_iff := by
    show TaskState.dead = .ready ↔ q.contains s.id = true
    rw [← h.ready_iff, hx]
    decide
  dead_clear _ := ⟨rfl, rfl, rfl, rfl⟩
  owned hd := absurd rfl hd
  table_state := rfl

theorem not_queued (h : SlotOk q s) (hn : s.state ≠ .ready) : q.contains s.id = false := by
  rw [Bool.eq_false_iff, ne_eq, ← h.ready_iff]
  exact hn

theorem tableOk (h : SlotOk q s) (hd : s.capabilities.state ≠ .dead) : s.capabilities.TableOk :=
  (validate_eq_ok_of_not_dead hd).mp h.table_valid

end SlotOk

/-! ## Both slots -/

/-- The states of two live tasks of which one runs, and the queue: the other task is ready, or it is
the second one and waits. -/
inductive Seats (waits : TaskState) : TaskState → TaskState → List UInt64 → Prop where
  | second : Seats waits .ready .running [senderTaskId]
  | first : Seats waits .running .ready [receiverTaskId]
  | waiting : Seats waits .running waits []

theorem Seats.accepted {waits state0 state1 : TaskState} {l : List UInt64}
    (seats : Seats waits state0 state1 l) (hw : waits = .blockedReceive ∨ waits = .blockedApproval) :
    state0.isLive = true ∧ state1.isLive = true ∧ ¬ (state0 = .running ∧ state1 = .running) ∧
      (state0 = .ready ↔ (RunQueue.ofList l).contains senderTaskId = true) ∧
      (state1 = .ready ↔ (RunQueue.ofList l).contains receiverTaskId = true) := by
  rcases hw with rfl | rfl <;> cases seats <;> decide

namespace SlotsOk

variable {rt : Runtime}

/-- Other registers. -/
theorem withContexts (h : SlotsOk rt) {c0 c1 : TaskContext} (h0 : ContextOk rt.task0 c0)
    (h1 : ContextOk rt.task1 c1) :
    SlotsOk { rt with task0 := rt.task0.withContext c0, task1 := rt.task1.withContext c1 } where
  queue := h.queue
  one_running := h.one_running
  slot0 := h.slot0.withContext h0
  slot1 := h.slot1.withContext h1

/-- Two live tasks in other live states, with the queue that goes with them. -/
theorem restate (h : SlotsOk rt) (id0 : rt.task0.id = senderTaskId)
    (id1 : rt.task1.id = receiverTaskId) (live0 : rt.task0.state.isLive = true)
    (live1 : rt.task1.state.isLive = true) {waits state0 state1 : TaskState} {l : List UInt64}
    (seats : Seats waits state0 state1 l) (hw : waits = .blockedReceive ∨ waits = .blockedApproval) :
    SlotsOk { rt with
      task0 := rt.task0.withState state0
      task1 := rt.task1.withState state1
      queue := RunQueue.ofList l } := by
  obtain ⟨live0', live1', hone, hready0, hready1⟩ := seats.accepted hw
  exact
    { queue := ⟨l, by cases seats; exacts [.sender, .receiver, .nil], rfl⟩
      one_running := hone
      slot0 := h.slot0.move live0 (.inl live0') (by rw [id0]; exact hready0)
      slot1 := h.slot1.move live1 (.inl live1') (by rw [id1]; exact hready1) }

/-- The running task exits. -/
theorem exit (h : SlotsOk rt) {task : UInt64} (hr : rt.Running task) :
    SlotsOk (Runtime.mapSlot task (TaskSlot.withState .exited) rt) := by
  have hready : ∀ {s : TaskSlot}, SlotOk rt.queue s → s.state = .running →
      (TaskState.exited = .ready ↔ rt.queue.contains s.id = true) := by
    intro s hs hrs
    rw [← hs.ready_iff, hrs]
    decide
  rcases hr with ⟨rfl, hr⟩ | ⟨rfl, hr⟩
  · exact
      { queue := h.queue
        one_running := fun hbad => absurd hbad.1 (show TaskState.exited ≠ .running by decide)
        slot0 := h.slot0.move (by rw [hr]; rfl) (.inr rfl) (hready h.slot0 hr)
        slot1 := h.slot1 }
  · exact
      { queue := h.queue
        one_running := fun hbad => absurd hbad.2 (show TaskState.exited ≠ .running by decide)
        slot0 := h.slot0
        slot1 := h.slot1.move (by rw [hr]; rfl) (.inr rfl) (hready h.slot1 hr) }

theorem queue_of_running0 (h : SlotsOk rt) (id0 : rt.task0.id = senderTaskId)
    (hr : rt.task0.state = .running) :
    rt.queue = RunQueue.ofList [] ∨ rt.queue = RunQueue.ofList [receiverTaskId] :=
  h.queue.without_sender (id0 ▸ h.slot0.not_queued (hr.trans_ne (by decide)))

theorem queue_of_running1 (h : SlotsOk rt) (id1 : rt.task1.id = receiverTaskId)
    (hr : rt.task1.state = .running) :
    rt.queue = RunQueue.ofList [] ∨ rt.queue = RunQueue.ofList [senderTaskId] :=
  h.queue.without_receiver (id1 ▸ h.slot1.not_queued (hr.trans_ne (by decide)))

theorem ready0 (h : SlotsOk rt) (id0 : rt.task0.id = senderTaskId)
    (hq : rt.queue = RunQueue.ofList [senderTaskId]) : rt.task0.state = .ready := by
  rw [h.slot0.ready_iff, id0, hq]
  rfl

theorem ready1 (h : SlotsOk rt) (id1 : rt.task1.id = receiverTaskId)
    (hq : rt.queue = RunQueue.ofList [receiverTaskId]) : rt.task1.state = .ready := by
  rw [h.slot1.ready_iff, id1, hq]
  rfl

/-- The table of the running task is live. -/
theorem table_live (h : SlotsOk rt) {task : UInt64} (hr : rt.Running task) :
    (rt.slotOf task).capabilities.state = .live := by
  rcases hr with ⟨rfl, hr⟩ | ⟨rfl, hr⟩
  · exact h.slot0.table_live (by rw [hr]; rfl)
  · exact h.slot1.table_live (by rw [hr]; rfl)

theorem tableOk (h : SlotsOk rt) {task : UInt64} (hr : rt.Running task) :
    (rt.slotOf task).capabilities.TableOk := by
  have hlive := (h.table_live hr).trans_ne (show _ ≠ CapabilityTableState.dead by decide)
  rcases hr.known with rfl | rfl
  · exact h.slot0.tableOk hlive
  · exact h.slot1.tableOk hlive

/-- The table of the running task changes in place. -/
theorem withTable (h : SlotsOk rt) {task : UInt64} (hr : rt.Running task) {table : CapabilityTable}
    (hok : table.TableOk) (hsame : (rt.slotOf task).capabilities.SameOwner table) :
    SlotsOk (Runtime.mapSlot task (TaskSlot.withTable table) rt) := by
  obtain ⟨htask, hgen, hstate⟩ := hsame
  have hvalid : table.validate = .ok () :=
    (validate_eq_ok_of_not_dead (by rw [hstate, h.table_live hr]; decide)).mpr hok
  rcases hr.known with rfl | rfl
  · exact { h with slot0 := h.slot0.withTable hvalid htask hgen hstate }
  · exact { h with slot1 := h.slot1.withTable hvalid htask hgen hstate }

end SlotsOk

/-! ## Phases -/

/-- A task that holds the processor: it runs, or it has exited and waits for its teardown. -/
def TaskState.isActive : TaskState → Bool
  | .running | .exited => true
  | _ => false

/-- Exactly one task holds the processor, or both are dead. -/
def Phase (a b : TaskState) : Prop :=
  (a.isActive = true ∧ b.isActive = false) ∨ (a.isActive = false ∧ b.isActive = true) ∨
    (a = .dead ∧ b = .dead)

namespace Phase

variable {a b : TaskState}

theorem second_passive (h : Phase a b) (ha : a.isActive = true) : b.isActive = false := by
  rcases h with ⟨-, h⟩ | ⟨h, -⟩ | ⟨rfl, -⟩
  · exact h
  · rw [h] at ha
    cases ha
  · cases ha

theorem first_passive (h : Phase a b) (hb : b.isActive = true) : a.isActive = false := by
  rcases h with ⟨-, h⟩ | ⟨h, -⟩ | ⟨-, rfl⟩
  · rw [h] at hb
    cases hb
  · exact h
  · cases hb

end Phase

theorem Seats.phase {waits state0 state1 : TaskState} {l : List UInt64}
    (seats : Seats waits state0 state1 l) (hw : waits.isActive = false) : Phase state0 state1 := by
  cases seats with
  | second => exact .inr (.inl ⟨rfl, rfl⟩)
  | first => exact .inl ⟨rfl, rfl⟩
  | waiting => exact .inl ⟨rfl, hw⟩

end MakopaVerified.TaskRuntime
