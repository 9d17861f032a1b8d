import MakopaVerified.TaskRuntime.Proofs.QueueProofs

/-!
# What `validate` accepts

`Runtime::validate` as a proposition: one structure per part of the check, whose fields are the
conditions that the source tests one after another. The operations are proved to keep these
structures; `validate_eq_ok` is the only place that unfolds the check itself.
-/

namespace MakopaVerified.TaskRuntime

open Foundation

variable {rt : Runtime}

/-! ## Slots -/

/-- The states of a task whose table is live and whose context is its own. -/
def TaskState.isLive : TaskState → Bool
  | .ready | .running | .blockedReceive | .blockedApproval => true
  | _ => false

/-- The table states that `validate` allows for a task state. -/
def TableStateOk (state : TaskState) (table : CapabilityTableState) : Prop :=
  match state with
  | .staged => table = .building
  | .ready | .running | .blockedReceive | .blockedApproval => table = .live
  | .exited => table = .live ∨ table = .closing
  | .dead => table = .dead

/-- A slot that passes the per-slot part of `validate`. -/
structure SlotOk (q : RunQueue) (s : TaskSlot) : Prop where
  table_valid : s.capabilities.validate = .ok ()
  ready_iff : s.state = .ready ↔ q.contains s.id = true
  dead_clear : s.state = .dead →
    s.generation = 0 ∧ s.context.taskId = 0 ∧ s.context.generation = 0 ∧ s.context.root = 0
  owned : s.state ≠ .dead →
    s.generation ≠ 0 ∧ s.context.taskId = s.id ∧ s.context.generation = s.generation
      ∧ s.context.root ≠ 0 ∧ s.capabilities.taskId = s.id
      ∧ s.capabilities.taskGeneration = s.generation
  table_state : TableStateOk s.state s.capabilities.state

theorem expectedTableState_ok {s : TaskSlot} :
    (∃ t, Runtime.expectedTableState s = .ok t ∧ s.capabilities.state = t) ↔
      TableStateOk s.state s.capabilities.state := by
  unfold Runtime.expectedTableState TableStateOk
  cases s.state with
  | exited =>
    dsimp only
    split
    · rename_i h
      simpa using h
    · rename_i h
      simpa using h
  | _ => simp [eq_comm]

theorem checkSlot_eq_ok {q : RunQueue} {s : TaskSlot} :
    Runtime.checkSlot q s = .ok () ↔ SlotOk q s := by
  have hlast : (Runtime.expectedTableState s >>= fun expected =>
      if s.capabilities.state ≠ expected then .error RuntimeError.capabilityInvariant
      else .ok ()) = .ok () ↔ TableStateOk s.state s.capabilities.state := by
    rw [← expectedTableState_ok]
    cases Runtime.expectedTableState s with
    | error e => simp [bind, Except.bind]
    | ok t => simp [bind, Except.bind, eq_comm]
  unfold Runtime.checkSlot
  rw [unit_bind_eq_ok, check_ite_eq_ok, check_ite_eq_ok, check_ite_eq_ok, hlast]
  constructor
  · rintro ⟨htable, hready, hdead, howned, hstate⟩
    refine ⟨htable, ?_, ?_, ?_, hstate⟩
    · simpa using hready
    · intro hd
      simp only [hd, true_and, not_or, not_not] at hdead
      exact ⟨hdead.1, hdead.2.1, hdead.2.2.1, hdead.2.2.2.1⟩
    · intro hd
      simpa [hd, not_or] using howned
  · intro h
    refine ⟨h.table_valid, ?_, ?_, ?_, h.table_state⟩
    · simpa using h.ready_iff
    · rintro ⟨hd, hbad⟩
      obtain ⟨h1, h2, h3, h4⟩ := h.dead_clear hd
      have h5 := h.table_state
      rw [hd] at h5
      simp only [h1, h2, h3, h4, ne_eq, not_true_eq_false, false_or] at hbad
      exact hbad h5
    · rintro ⟨hd, hbad⟩
      obtain ⟨h1, h2, h3, h4, h5, h6⟩ := h.owned hd
      simp [h1, h2, h3, h4, h5, h6] at hbad

/-! ## Profiles -/

/-- The part of `validate` for the cooperative profile. -/
structure CoopOk (rt : Runtime) : Prop where
  sender_state : rt.task0.state ≠ .staged ∧ rt.task0.state ≠ .blockedApproval
  receiver_state : rt.task1.state ≠ .staged ∧ rt.task1.state ≠ .blockedApproval
  manifest_empty : rt.manifest = ManifestPublication.empty
  broker_dead : rt.broker = ApprovalBroker.dead
  effect_empty : rt.effect = SyntheticEffect.empty
  sender_live : rt.task0.capabilities.state = .live →
    rt.endpoint.senderTask = rt.task0.id ∧ rt.endpoint.senderGeneration = rt.task0.generation
  sender_gone : rt.task0.capabilities.state = .closing ∨ rt.task0.capabilities.state = .dead →
    rt.endpoint.senderTask = 0 ∧ rt.endpoint.senderGeneration = 0
  receiver_live : rt.task1.capabilities.state = .live →
    rt.endpoint.receiverTask = rt.task1.id ∧ rt.endpoint.receiverGeneration = rt.task1.generation
  receiver_gone : rt.task1.capabilities.state = .closing ∨ rt.task1.capabilities.state = .dead →
    rt.endpoint.receiverTask = 0 ∧ rt.endpoint.receiverGeneration = 0
  blocked : rt.task1.state = .blockedReceive →
    rt.endpoint.occupied = false ∧ rt.endpoint.senderGeneration ≠ 0
  unreceived : rt.endpoint.receiverGeneration = 0 → rt.endpoint.occupied = false
  vacant : rt.endpoint.occupied = false → rt.endpoint.payload = 0
  object_generation : rt.endpoint.objectGeneration = 0
    ∨ rt.endpoint.objectGeneration = endpointGeneration
  object_live : rt.task0.state ≠ .dead ∨ rt.task1.state ≠ .dead →
    rt.endpoint.objectGeneration = endpointGeneration
  sender_bound : rt.endpoint.senderTask = 0 ↔ rt.endpoint.senderGeneration = 0
  receiver_bound : rt.endpoint.receiverTask = 0 ↔ rt.endpoint.receiverGeneration = 0
  sender_task : rt.endpoint.senderTask = 0 ∨ rt.endpoint.senderTask = senderTaskId
  receiver_task : rt.endpoint.receiverTask = 0 ∨ rt.endpoint.receiverTask = receiverTaskId
  all_dead : rt.task0.state = .dead → rt.task1.state = .dead → rt.endpoint = Endpoint.empty

theorem validateCooperative_eq_ok :
    rt.validateCooperative = .ok () ↔ CoopOk rt := by
  unfold Runtime.validateCooperative
  simp only [check_ite_eq_ok, and_true, Runtime.tasks, List.any_cons, List.any_nil, Bool.or_false,
    List.all_cons, List.all_nil, Bool.and_true, Bool.or_eq_true, Bool.and_eq_true,
    decide_eq_true_eq]
  constructor
  · rintro ⟨h1, h2, h3, h4, h5, h6, h7, h8, h9⟩
    simp only [not_or, not_not, ne_eq] at h1
    obtain ⟨⟨h10, h11⟩, h12, h13, h14⟩ := h1
    simp only [not_or, not_and, not_not, ne_eq, eq_iff_iff] at h2 h3 h4 h5 h6 h7 h8 h9
    obtain ⟨h81, h82, h83, h84, h85, h86, h87⟩ := h8
    exact
      { sender_state := h10
        receiver_state := h11
        manifest_empty := h12
        broker_dead := h13
        effect_empty := h14
        sender_live := h2
        sender_gone := h3
        receiver_live := h4
        receiver_gone := h5
        blocked := by simpa using h6
        unreceived := by simpa using h7
        vacant := h81
        object_generation := or_iff_not_imp_left.mpr h82
        object_live := h83
        sender_bound := h84
        receiver_bound := h85
        sender_task := or_iff_not_imp_left.mpr h86
        receiver_task := or_iff_not_imp_left.mpr h87
        all_dead := fun hd0 hd1 => h9 ⟨hd0, hd1⟩ }
  · intro h
    simp only [not_or, not_and, not_not, ne_eq, eq_iff_iff]
    exact ⟨⟨⟨h.sender_state, h.receiver_state⟩, h.manifest_empty, h.broker_dead, h.effect_empty⟩, h.sender_live,
      h.sender_gone, h.receiver_live, h.receiver_gone, by simpa using h.blocked,
      by simpa using h.unreceived, ⟨h.vacant, or_iff_not_imp_left.mp h.object_generation, h.object_live,
        h.sender_bound, h.receiver_bound, or_iff_not_imp_left.mp h.sender_task,
        or_iff_not_imp_left.mp h.receiver_task⟩, fun hd => h.all_dead hd.1 hd.2⟩

/-- The fields of a request that are fixed by the registries. -/
def ApprovalRequest.Canonical (r : ApprovalRequest) : Prop :=
  r.principalId = TaskRuntime.principalId ∧ r.workloadTaskId = receiverTaskId
    ∧ r.workloadGeneration = TaskRuntime.workloadGeneration ∧ r.sequence ≠ 0
    ∧ r.actionId = approvalActionIdCommitSyntheticValue
    ∧ r.effectObjectId = testEffectObjectId
    ∧ r.effectObjectGeneration = fixedObjectGeneration
    ∧ r.requestedRights = capabilityRightCommitEffect ∧ r.resultingRights = 0

/-- The broker holds no request. -/
def ApprovalBroker.NoRequest (b : ApprovalBroker) : Prop :=
  b.requestPresent = false ∧ b.requestKind = 0 ∧ b.request = ApprovalRequest.zero
    ∧ b.approvalEpoch = 0 ∧ b.expiryEpoch = 0

/-- The match on the broker state in `validate_supervised`. -/
def BrokerStateOk (b : ApprovalBroker) (workload : TaskState) : Prop :=
  match b.state with
  | .building => False
  | .empty | .closing | .dead => b.NoRequest
  | .pending =>
    b.requestPresent = true ∧ b.requestKind = approvalRequestKindCommitSyntheticValue
      ∧ b.approvalEpoch = 0 ∧ b.expiryEpoch = 0 ∧ workload = .blockedApproval
  | .approved =>
    b.requestPresent = true ∧ b.requestKind = approvalRequestKindCommitSyntheticValue
      ∧ b.approvalEpoch ≠ 0 ∧ b.expiryEpoch = saturatingAdd b.approvalEpoch 1
      ∧ workload = .blockedApproval

/-- The part of `validate` for the supervised profile. -/
structure SupOk (rt : Runtime) : Prop where
  endpoint_empty : rt.endpoint = Endpoint.empty
  supervisor_state : rt.task0.state ≠ .blockedReceive
  workload_state : rt.task1.state ≠ .blockedReceive
  supervisor_generation : rt.task0.state ≠ .dead → rt.task0.generation = supervisorGeneration
  workload_generation : rt.task1.state ≠ .dead → rt.task1.generation = workloadGeneration
  staged : rt.task1.state = .staged → rt.manifest = ManifestPublication.empty
    ∧ rt.task1.capabilities.state = .building ∧ rt.task1.capabilities.liveSlots = 0
  launched : rt.task1.state ≠ .staged → rt.task1.state ≠ .dead →
    rt.task1.capabilities.state ≠ .closing → rt.manifest = ManifestPublication.registered
  unlaunched : rt.task1.state = .dead → rt.manifest = ManifestPublication.empty
  broker_state : BrokerStateOk rt.broker rt.task1.state
  broker_live : rt.broker.state ≠ .dead → rt.broker.objectGeneration = fixedObjectGeneration
    ∧ rt.broker.nextSequence ≠ 0 ∧ rt.broker.decisionEpoch ≠ 0
  broker_dead : rt.broker.state = .dead → rt.broker = ApprovalBroker.dead
  request : rt.broker.requestPresent = true → rt.broker.request.Canonical
  effect_empty : rt.effect.objectGeneration = 0 → rt.effect = SyntheticEffect.empty
  effect_bound : rt.effect.objectGeneration ≠ 0 →
    rt.effect.objectGeneration = fixedObjectGeneration ∧ rt.effect.supervisorTaskId = senderTaskId
      ∧ rt.effect.supervisorGeneration = supervisorGeneration
      ∧ (rt.effect.occupied = false → rt.effect.value = 0)
  all_dead : rt.task0.state = .dead → rt.task1.state = .dead →
    rt.manifest = ManifestPublication.empty ∧ rt.broker = ApprovalBroker.dead
      ∧ rt.effect = SyntheticEffect.empty

theorem checkBrokerState_eq_ok :
    rt.checkBrokerState = .ok () ↔ BrokerStateOk rt.broker rt.task1.state := by
  unfold Runtime.checkBrokerState BrokerStateOk
  cases rt.broker.state with
  | building => simp
  | empty | closing | dead =>
    simp only [check_ite_eq_ok, and_true, ApprovalBroker.NoRequest, not_or, not_not, ne_eq,
      Bool.not_eq_true]
  | pending | approved =>
    simp only [check_ite_eq_ok, and_true, not_or, not_not, ne_eq, Bool.not_eq_false]

/-- The manifest fields that `validate_supervised` compares make up the whole publication. -/
theorem manifest_registered_iff {m : ManifestPublication} :
    ¬ (m.published = false ∨ m.manifestId ≠ manifestId ∨ m.principalId ≠ principalId
      ∨ m.targetTaskId ≠ receiverTaskId ∨ m.targetGeneration ≠ workloadGeneration
      ∨ m.imageId ≠ workloadImageId) ↔ m = ManifestPublication.registered := by
  obtain ⟨id, principal, target, gen, image, published⟩ := m
  simp only [ManifestPublication.registered, ManifestPublication.mk.injEq, not_or, not_not, ne_eq,
    Bool.not_eq_false]
  tauto

theorem validateSupervised_eq_ok :
    rt.validateSupervised = .ok () ↔ SupOk rt := by
  unfold Runtime.validateSupervised
  simp only [check_ite_eq_ok, unit_bind_eq_ok, checkBrokerState_eq_ok, and_true, Runtime.tasks,
    List.any_cons, List.any_nil, Bool.or_false, List.all_cons, List.all_nil, Bool.and_true,
    Bool.or_eq_true, Bool.and_eq_true, decide_eq_true_eq]
  constructor
  · rintro ⟨h1, h2, h3, h4, h5, h6, h7, h8, h9, h10, h11, h12, h13⟩
    simp only [not_or, not_not, ne_eq] at h1
    obtain ⟨h11', h12', h13'⟩ := h1
    simp only [not_or, not_and, not_not, ne_eq, and_imp] at h2 h3 h4 h6 h8 h9 h10 h11 h12 h13
    refine
      { endpoint_empty := h11'
        supervisor_state := h12'
        workload_state := h13'
        supervisor_generation := h2
        workload_generation := h3
        staged := h4
        launched := ?_
        unlaunched := h6
        broker_state := h7
        broker_live := h8
        broker_dead := h9
        request := h10
        effect_empty := h11
        effect_bound := h12
        all_dead := h13 }
    intro hs hd hc
    by_contra hne
    rw [← manifest_registered_iff, not_not] at hne
    exact h5 ⟨hs, hd, hc, hne⟩
  · intro h
    refine ⟨?_, ?_, ?_, ?_, ?_, ?_, h.broker_state, ?_, ?_, ?_, ?_, ?_, ?_⟩
    · simp only [not_or, not_not, ne_eq]
      exact ⟨h.endpoint_empty, h.supervisor_state, h.workload_state⟩
    · simpa using h.supervisor_generation
    · simpa using h.workload_generation
    · simpa [not_or] using h.staged
    · rintro ⟨hs, hd, hc, hbad⟩
      exact manifest_registered_iff.mpr (h.launched hs hd hc) hbad
    · simpa using h.unlaunched
    · simpa [not_or] using h.broker_live
    · simpa using h.broker_dead
    · simpa [not_or, ApprovalRequest.Canonical] using h.request
    · simpa using h.effect_empty
    · simpa [not_or] using h.effect_bound
    · simpa [not_or, and_imp] using h.all_dead

/-! ## The whole check -/

/-- The part of `validate` that both profiles share. -/
structure SlotsOk (rt : Runtime) : Prop where
  queue : QueueOk rt.queue
  one_running : ¬ (rt.task0.state = .running ∧ rt.task1.state = .running)
  slot0 : SlotOk rt.queue rt.task0
  slot1 : SlotOk rt.queue rt.task1

/-- A runtime that passes `validate`. -/
structure Valid (rt : Runtime) : Prop extends SlotsOk rt where
  cooperative : rt.profile = .cooperative → CoopOk rt
  supervised : rt.profile = .supervised → SupOk rt

theorem running_count :
    (rt.tasks.filter fun s => s.state = .running).length > 1 ↔
      rt.task0.state = .running ∧ rt.task1.state = .running := by
  unfold Runtime.tasks
  by_cases h0 : rt.task0.state = .running
  · by_cases h1 : rt.task1.state = .running <;> simp [h0, h1]
  · by_cases h1 : rt.task1.state = .running <;> simp [h0, h1]

theorem validate_eq_ok : rt.validate = .ok () ↔ Valid rt := by
  unfold Runtime.validate
  rw [unit_bind_eq_ok, checkQueue_eq_ok, check_ite_eq_ok, running_count, unit_bind_eq_ok,
    checkSlot_eq_ok, unit_bind_eq_ok, checkSlot_eq_ok]
  constructor
  · rintro ⟨hq, hr, h0, h1, hp⟩
    refine ⟨⟨hq, hr, h0, h1⟩, ?_, ?_⟩
    · intro hprof
      rw [hprof] at hp
      exact validateCooperative_eq_ok.mp hp
    · intro hprof
      rw [hprof] at hp
      exact validateSupervised_eq_ok.mp hp
  · intro h
    refine ⟨h.queue, h.one_running, h.slot0, h.slot1, ?_⟩
    cases hprof : rt.profile with
    | cooperative => exact validateCooperative_eq_ok.mpr (h.cooperative hprof)
    | supervised => exact validateSupervised_eq_ok.mpr (h.supervised hprof)

end MakopaVerified.TaskRuntime
