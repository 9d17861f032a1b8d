import MakopaVerified.TaskRuntime.Proofs.SupervisedTrapProofs

/-!
# The supervised invariant is kept

Every effect of a trap, the capture of registers and both phases of a teardown keep `SupInv`. The
second phase is the one call that can be refused: a supervisor that exits before it has launched
its workload leaves nobody to dispatch.
-/

namespace MakopaVerified.TaskRuntime

open Foundation TaskRuntime.Runtime

/-! ## The broker and the effect -/

/-- A broker that `validate` accepts next to a workload in the given state. -/
structure BrokerOk (b : ApprovalBroker) (workload : TaskState) : Prop where
  state : BrokerStateOk b workload
  live : b.state ≠ .dead → b.objectGeneration = fixedObjectGeneration ∧ b.nextSequence ≠ 0
    ∧ b.decisionEpoch ≠ 0
  dead : b.state = .dead → b = ApprovalBroker.dead
  request : b.requestPresent = true → b.request.Canonical

/-- An effect that `validate` accepts. -/
structure EffectOk (e : SyntheticEffect) : Prop where
  empty : e.objectGeneration = 0 → e = SyntheticEffect.empty
  bound : e.objectGeneration ≠ 0 →
    e.objectGeneration = fixedObjectGeneration ∧ e.supervisorTaskId = senderTaskId
      ∧ e.supervisorGeneration = supervisorGeneration ∧ (e.occupied = false → e.value = 0)

theorem SupOk.brokerOk {rt : Runtime} (h : SupOk rt) : BrokerOk rt.broker rt.task1.state where
  state := h.broker_state
  live := h.broker_live
  dead := h.broker_dead
  request := h.request

theorem SupOk.effectOk {rt : Runtime} (h : SupOk rt) : EffectOk rt.effect where
  empty := h.effect_empty
  bound := h.effect_bound

theorem EffectOk.fill {e : SyntheticEffect} (h : EffectOk e) (hb : e.objectGeneration ≠ 0)
    (value : UInt64) : EffectOk { e with occupied := true, value := value } where
  empty hz := absurd hz hb
  bound _ := by
    obtain ⟨h1, h2, h3, -⟩ := h.bound hb
    exact ⟨h1, h2, h3, nofun⟩

theorem EffectOk.of_empty : EffectOk SyntheticEffect.empty where
  empty _ := rfl
  bound hz := absurd rfl hz

/-- A runtime with nothing left in it. -/
theorem SupOk.finished {rt : Runtime} (h0 : rt.task0.state = .dead) (h1 : rt.task1.state = .dead)
    (he : rt.endpoint = Endpoint.empty) (hm : rt.manifest = ManifestPublication.empty)
    (hb : rt.broker = ApprovalBroker.dead) (hf : rt.effect = SyntheticEffect.empty) : SupOk rt where
  endpoint_empty := he
  supervisor_state := by rw [h0]; decide
  workload_state := by rw [h1]; decide
  supervisor_generation hd := absurd h0 hd
  workload_generation hd := absurd h1 hd
  staged hs := nomatch h1.symm.trans hs
  launched _ hd := absurd h1 hd
  unlaunched _ := hm
  broker_state := by rw [hb]; exact ⟨rfl, rfl, rfl, rfl, rfl⟩
  broker_live hd := absurd (by rw [hb]; rfl) hd
  broker_dead _ := hb
  request hp := by
    rw [hb] at hp
    cases hp
  effect_empty _ := hf
  effect_bound hz := absurd (by rw [hf]; rfl) hz
  all_dead _ _ := ⟨hm, hb, hf⟩

namespace BrokerOk

variable {b : ApprovalBroker} {workload workload' : TaskState}

/-- A broker without an open request does not look at the workload. -/
theorem idle (h : BrokerOk b workload) (hp : b.state ≠ .pending) (ha : b.state ≠ .approved) :
    BrokerOk b workload' where
  state := by
    have hs := h.state
    unfold BrokerStateOk at hs ⊢
    cases hb : b.state with
    | pending => exact absurd hb hp
    | approved => exact absurd hb ha
    | building | empty | closing | dead =>
      rw [hb] at hs
      exact hs
  live := h.live
  dead := h.dead
  request := h.request

theorem submit (h : BrokerOk b workload) (hd : b.state ≠ .dead) {kind epoch : UInt64}
    (argument : UInt64) (hkind : kind = approvalRequestKindCommitSyntheticValue) (hepoch : epoch ≠ 0)
    (hidle : b.approvalEpoch = 0 ∧ b.expiryEpoch = 0) :
    BrokerOk (b.submit kind argument epoch) .blockedApproval where
  state := ⟨rfl, hkind, hidle.1, hidle.2, rfl⟩
  live _ := by
    obtain ⟨hgen, hseq, -⟩ := h.live hd
    refine ⟨hgen, ?_, hepoch⟩
    show (if b.nextSequence = u64Max then b.nextSequence else b.nextSequence + 1) ≠ 0
    split
    · exact hseq
    · rename_i hmax
      exact add_one_ne_zero hmax
  dead := nofun
  request _ := ⟨rfl, rfl, rfl, (h.live hd).2.1, rfl, rfl, rfl, rfl, rfl⟩

theorem approve (h : BrokerOk b workload) (hp : b.state = .pending) {epoch : UInt64}
    (hepoch : epoch ≠ 0) (hmax : epoch ≠ u64Max) : BrokerOk (b.approve epoch) workload where
  state := by
    have hs := h.state
    unfold BrokerStateOk at hs
    rw [hp] at hs
    obtain ⟨hpresent, hkind, -, -, hblocked⟩ := hs
    exact ⟨hpresent, hkind, hepoch, (saturatingAdd_one hmax).symm, hblocked⟩
  live _ := by
    obtain ⟨hgen, hseq, -⟩ := h.live (by rw [hp]; decide)
    exact ⟨hgen, hseq, hepoch⟩
  dead := nofun
  request := h.request

theorem conclude (h : BrokerOk b workload) (hd : b.state ≠ .dead) {epoch : UInt64}
    (hepoch : epoch ≠ 0) : BrokerOk (b.conclude epoch) workload' where
  state := ⟨rfl, rfl, rfl, rfl, rfl⟩
  live _ := by
    obtain ⟨hgen, hseq, -⟩ := h.live hd
    exact ⟨hgen, hseq, hepoch⟩
  dead := nofun
  request := nofun

/-- A broker that is closed, whoever it was bound to. -/
theorem close (h : BrokerOk b workload) (hd : b.state ≠ .dead) (supervisor gen : UInt64) :
    BrokerOk { b.clearRequest with
      state := .closing
      supervisorTaskId := supervisor
      supervisorGeneration := gen } workload' where
  state := ⟨rfl, rfl, rfl, rfl, rfl⟩
  live _ := h.live hd
  dead := nofun
  request := nofun

theorem of_dead : BrokerOk ApprovalBroker.dead workload where
  state := ⟨rfl, rfl, rfl, rfl, rfl⟩
  live hd := absurd rfl hd
  dead _ := rfl
  request := nofun

end BrokerOk

namespace SupCore

variable {rt : Runtime} {task : UInt64}

/-! ## Registers, tables and states -/

/-- The supervised half of the check is enough. -/
theorem valid_of {rt' : Runtime} (hp : rt'.profile = .supervised) (hs : SlotsOk rt')
    (hc : SupOk rt') : Valid rt' :=
  { hs with
    cooperative := fun hp' => absurd (hp.symm.trans hp') (by decide)
    supervised := fun _ => hc }

/-- Without an open request there is none that the workload could wait for. -/
theorem closed_of_unblocked (h : SupCore rt) (hb : rt.task1.state ≠ .blockedApproval) :
    rt.broker.state ≠ .pending ∧ rt.broker.state ≠ .approved :=
  ⟨fun hs => hb (h.blocked_of_open (.inl hs)), fun hs => hb (h.blocked_of_open (.inr hs))⟩

/-- Other registers. -/
theorem withContexts (h : SupCore rt) {c0 c1 : TaskContext} (h0 : ContextOk rt.task0 c0)
    (h1 : ContextOk rt.task1 c1) :
    SupCore { rt with task0 := rt.task0.withContext c0, task1 := rt.task1.withContext c1 } :=
  { h with
    valid := valid_of h.profile (h.valid.toSlotsOk.withContexts h0 h1) { h.sup with } }

/-- A result in the registers of one task. -/
theorem answered (h : SupCore rt) (hk : KnownTask task) (status : TrapStatus) (value : UInt64) :
    SupCore (mapSlot task (TaskSlot.answered status value) rt) := by
  rcases hk with rfl | rfl <;> exact h.withContexts h.valid.slot0.contextOk h.valid.slot1.contextOk

/-- Another open broker, while the supervisor is in service. -/
theorem withBroker (h : SupCore rt) (hr : rt.task0.state = .running) {b : ApprovalBroker}
    (hb : BrokerOk b rt.task1.state) (halive : b.state ≠ .dead)
    (hopen : rt.task1.state = .blockedApproval → b.state = .pending ∨ b.state = .approved) :
    SupCore { rt with broker := b } :=
  { h with
    valid := valid_of h.profile { h.valid.toSlotsOk with }
      { h.sup with
        broker_state := hb.state
        broker_live := hb.live
        broker_dead := hb.dead
        request := hb.request
        all_dead := fun hd _ => nomatch hr.symm.trans hd }
    waiting := hopen
    broker_open := fun _ _ => ⟨hr.trans_ne (by decide),
      (h.valid.slot0.table_live (by rw [hr]; rfl)).trans_ne (by decide)⟩
    broker_alive := fun _ => halive }

/-- Two live tasks in other live states, with another broker and another effect. -/
theorem restate (h : SupCore rt) (live0 : rt.task0.state.isLive = true)
    (live1 : rt.task1.state.isLive = true) {state0 state1 : TaskState} {l : List UInt64}
    {b : ApprovalBroker} {e : SyntheticEffect} (seats : Seats .blockedApproval state0 state1 l)
    (hb : BrokerOk b state1) (halive : b.state ≠ .dead) (he : EffectOk e)
    (hopen : state1 = .blockedApproval → b.state = .pending ∨ b.state = .approved) :
    SupCore { rt with
      task0 := rt.task0.withState state0
      task1 := rt.task1.withState state1
      queue := RunQueue.ofList l
      broker := b
      effect := e } := by
  have hstate0 : state0 ≠ .staged ∧ state0 ≠ .blockedApproval ∧ state0 ≠ .blockedReceive
      ∧ state0 ≠ .dead := by cases seats <;> decide
  have hstate1 : state1 ≠ .staged ∧ state1 ≠ .blockedReceive ∧ state1 ≠ .dead := by
    cases seats <;> decide
  have hstaged : rt.task1.state ≠ .staged := by
    intro hs
    rw [hs] at live1
    cases live1
  have hslots := h.valid.toSlotsOk.restate h.id0 h.id1 live0 live1 seats (.inr rfl)
  exact
    { profile := h.profile
      id0 := h.id0
      id1 := h.id1
      valid := valid_of h.profile { hslots with }
        { endpoint_empty := h.sup.endpoint_empty
          supervisor_state := hstate0.2.2.1
          workload_state := hstate1.2.1
          supervisor_generation := fun _ =>
            h.sup.supervisor_generation (SlotOk.not_dead_of_live live0)
          workload_generation := fun _ =>
            h.sup.workload_generation (SlotOk.not_dead_of_live live1)
          staged := fun hs => absurd hs hstate1.1
          launched := fun _ _ => h.sup.launched hstaged (SlotOk.not_dead_of_live live1)
          unlaunched := fun hd => absurd hd hstate1.2.2
          broker_state := hb.state
          broker_live := hb.live
          broker_dead := hb.dead
          request := hb.request
          effect_empty := he.empty
          effect_bound := he.bound
          all_dead := fun hd _ => absurd hd hstate0.2.2.2 }
      phase := seats.phase rfl
      supervisor_state := ⟨hstate0.1, hstate0.2.1⟩
      waiting := hopen
      broker_open := fun _ _ =>
        ⟨hstate0.2.2.2, (h.valid.slot0.table_live live0).trans_ne (by decide)⟩
      broker_alive := fun _ => halive
      released := h.released }

/-- The request is over: the workload is ready again while the supervisor runs. -/
theorem settle (h : SupCore rt) (hr : rt.task0.state = .running)
    (hb : rt.task1.state = .blockedApproval) {b : ApprovalBroker} {e : SyntheticEffect}
    (hbroker : BrokerOk b .ready) (halive : b.state ≠ .dead) (he : EffectOk e) :
    SupCore { rt with
      task1 := rt.task1.withState .ready
      queue := RunQueue.ofList [receiverTaskId]
      broker := b
      effect := e } := by
  have hself : rt.task0.withState .running = rt.task0 := TaskSlot.withState_self hr
  rw [← hself]
  exact h.restate (by rw [hr]; rfl) (by rw [hb]; rfl) .first hbroker halive he
    nofun

/-- The running task exits. -/
theorem exited (h : SupCore rt) (hr : rt.Running task) :
    SupCore (mapSlot task (TaskSlot.withState .exited) rt) := by
  have hslots := h.valid.toSlotsOk.exit hr
  rcases hr with ⟨rfl, hr⟩ | ⟨rfl, hr⟩
  · have hpassive := h.phase.second_passive (by rw [hr]; rfl)
    exact
      { h with
        valid := valid_of h.profile hslots
          { h.sup with
            supervisor_state := nofun
            supervisor_generation := fun _ => h.sup.supervisor_generation (by rw [hr]; decide)
            all_dead := nofun }
        phase := .inl ⟨rfl, hpassive⟩
        supervisor_state := ⟨nofun, nofun⟩
        broker_open := fun _ _ => ⟨nofun,
          (h.valid.slot0.table_live (by rw [hr]; rfl)).trans_ne (by decide)⟩
        broker_alive := fun _ => h.broker_alive (by rw [hr]; decide) }
  · have hpassive := h.phase.first_passive (by rw [hr]; rfl)
    obtain ⟨hpending, happroved⟩ := h.closed_of_unblocked (by rw [hr]; decide)
    exact
      { h with
        valid := valid_of h.profile hslots
          { h.sup with
            workload_state := nofun
            workload_generation := fun _ => h.sup.workload_generation (by rw [hr]; decide)
            staged := nofun
            launched := fun _ _ => h.sup.launched (by rw [hr]; decide) (by rw [hr]; decide)
            unlaunched := nofun
            broker_state := (h.sup.brokerOk.idle hpending happroved).state
            all_dead := nofun }
        phase := .inr (.inl ⟨hpassive, rfl⟩)
        waiting := nofun }

/-- The table of the running task changes in place. -/
theorem withTable (h : SupCore rt) (hr : rt.Running task) {table : CapabilityTable}
    (hok : table.TableOk) (hsame : (rt.slotOf task).capabilities.SameOwner table) :
    SupCore (mapSlot task (TaskSlot.withTable table) rt) := by
  have hslots := h.valid.toSlotsOk.withTable hr hok hsame
  have hlive := h.valid.toSlotsOk.table_live hr
  have hlive' : table.state = .live := hsame.2.2.trans hlive
  rcases hr with ⟨rfl, hr⟩ | ⟨rfl, hr⟩
  · exact
      { h with
        valid := valid_of h.profile hslots { h.sup with }
        broker_open := fun hc hd => ⟨(h.broker_open hc hd).1, hlive'.trans_ne (by decide)⟩ }
  · exact
      { h with
        valid := valid_of h.profile hslots
          { h.sup with
            staged := fun hs => nomatch hr.symm.trans hs
            launched := fun hs hd _ => h.sup.launched hs hd (hlive.trans_ne (by decide)) }
        released := fun hc => nomatch hlive'.symm.trans hc }

/-- The staged workload is launched while the supervisor runs. -/
theorem launched (h : SupCore rt) (hr : rt.task0.state = .running)
    (hstaged : rt.task1.state = .staged) {table : CapabilityTable}
    (change : CapabilityTable.Launched rt.task1.capabilities table) :
    SupCore { rt with
      task1 := (rt.task1.withTable table).withState .ready
      manifest := ManifestPublication.registered
      queue := RunQueue.ofList [receiverTaskId] } := by
  have hbuilding : rt.task1.capabilities.state ≠ .dead := by
    rw [change.building]
    decide
  obtain ⟨hok, htask, hgen, hlive⟩ := change.keeps (h.valid.slot1.tableOk hbuilding)
  have hvalid : table.validate = .ok () :=
    (CapabilityTable.validate_eq_ok_of_not_dead (by rw [hlive]; decide)).mpr hok
  have hdead : rt.task1.state ≠ .dead := by rw [hstaged]; decide
  obtain ⟨hpending, happroved⟩ := h.closed_of_unblocked (by rw [hstaged]; decide)
  have hqueue : rt.queue = RunQueue.ofList [] :=
    h.valid.queue_nil h.id0 h.id1 (by rw [hr]; decide) (by rw [hstaged]; decide)
  exact
    { h with
      valid := valid_of h.profile
        { queue := ⟨_, .receiver, rfl⟩
          one_running := fun hbad => nomatch hbad.2
          slot0 := h.valid.slot0.requeue (by rw [hqueue, h.id0]; rfl)
          slot1 :=
            { table_valid := hvalid
              ready_iff := by
                show TaskState.ready = .ready ↔
                  (RunQueue.ofList [receiverTaskId]).contains rt.task1.id = true
                rw [h.id1]
                decide
              dead_clear := nofun
              owned := fun _ => by
                obtain ⟨h1, h2, h3, h4, h5, h6⟩ := h.valid.slot1.owned hdead
                exact ⟨h1, h2, h3, h4, htask.trans h5, hgen.trans h6⟩
              table_state := hlive } }
        { h.sup with
          workload_state := nofun
          workload_generation := fun _ => h.sup.workload_generation hdead
          staged := nofun
          launched := fun _ _ _ => rfl
          unlaunched := nofun
          broker_state := (h.sup.brokerOk.idle hpending happroved).state
          all_dead := nofun }
      phase := .inl ⟨by rw [hr]; rfl, rfl⟩
      waiting := nofun
      released := fun hc => nomatch hlive.symm.trans hc }

end SupCore

/-! ## Traps -/

namespace SupInv

variable {rt : Runtime} {task : UInt64}

/-- Every effect of a trap keeps the invariant. -/
theorem effect (h : SupInv rt) (hr : rt.Running task) {outcome : TrapOutcome} {rt' : Runtime}
    (he : TrapEffect rt task outcome rt') : SupInv rt' := by
  have hk := hr.known
  have hlive : (rt.slotOf task).state.isLive = true := by rw [hr.state]; rfl
  have htable := h.valid.toSlotsOk.tableOk hr
  have hkept : ∀ {r : Runtime}, SupCore r → r.broker = rt.broker → SupInv r := by
    intro r hcore hb
    exact { hcore with approved_epoch := by rw [hb]; exact h.approved_epoch }
  have hbroker := h.sup.brokerOk
  cases he with
  | refused => exact hkept (h.toSupCore.answered hk _ _) (mapSlot_broker ..)
  | kept => exact hkept (h.toSupCore.answered hk _ _) (mapSlot_broker ..)
  | yielded op other known waiting =>
    rcases hk with rfl | rfl
    · obtain rfl : _ = receiverTaskId := known.resolve_left other
      have hready := h.valid.toSlotsOk.ready1 h.id1 waiting
      obtain ⟨hpending, happroved⟩ := h.closed_of_unblocked (by rw [hready]; decide)
      exact hkept ((h.toSupCore.restate hlive (by rw [hready]; rfl) .second
        (hbroker.idle hpending happroved) (h.broker_alive (SlotOk.not_dead_of_live hlive))
        h.sup.effectOk nofun).answered (.inl rfl) .ok 0) rfl
    · obtain rfl : _ = senderTaskId := known.resolve_right other
      have hready := h.valid.toSlotsOk.ready0 h.id0 waiting
      obtain ⟨hpending, happroved⟩ := h.closed_of_unblocked (by
        rw [show rt.task1.state = .running from hr.state]
        decide)
      exact hkept ((h.toSupCore.restate (by rw [hready]; rfl) hlive .first
        (hbroker.idle hpending happroved) (h.broker_alive (by rw [hready]; decide))
        h.sup.effectOk nofun).answered (.inr rfl) .ok 0) rfl
  | stored op sender bound =>
    rw [h.sup.endpoint_empty] at bound
    exact absurd rfl bound
  | delivered op sender vacant blocked => exact absurd blocked h.sup.workload_state
  | took op receiver occupied =>
    rw [h.sup.endpoint_empty] at occupied
    cases occupied
  | blocked op receiver vacant bound =>
    rw [h.sup.endpoint_empty] at bound
    exact absurd rfl bound
  | exited => exact hkept (h.toSupCore.exited hr) (mapSlot_broker ..)
  | duplicated op change =>
    obtain ⟨hok, hsame⟩ := change.keeps htable
    rw [← mapSlot_mapSlot task (TaskSlot.answered .ok _) (TaskSlot.withTable _)]
    refine hkept ((h.toSupCore.withTable hr hok hsame).answered hk .ok _) ?_
    rw [mapSlot_broker, mapSlot_broker]
  | closed op change =>
    obtain ⟨hok, hsame⟩ := change.keeps htable
    rw [← mapSlot_mapSlot task (TaskSlot.answered .ok 0) (TaskSlot.withTable _)]
    refine hkept ((h.toSupCore.withTable hr hok hsame).answered hk .ok 0) ?_
    rw [mapSlot_broker, mapSlot_broker]
  | launched op supervisor supervised staged change =>
    subst supervisor
    exact hkept ((h.toSupCore.launched hr.state staged change).answered (.inl rfl) .ok 0) rfl
  | submitted op workload supervised idle kind unexhausted epoch waiting =>
    subst workload
    have hready := h.valid.toSlotsOk.ready0 h.id0 waiting
    have hnone : rt.broker.NoRequest := by
      have hs := hbroker.state
      unfold BrokerStateOk at hs
      rw [idle] at hs
      exact hs
    have hsubmit := hbroker.submit (by rw [idle]; decide) (rt.input receiverTaskId).rdx kind
      (add_one_ne_zero epoch) ⟨hnone.2.2.2.1, hnone.2.2.2.2⟩
    exact
      { h.toSupCore.restate (by rw [hready]; rfl) hlive .waiting hsubmit
          ApprovalBrokerState.noConfusion h.sup.effectOk fun _ => .inl rfl with
        approved_epoch := nofun }
  | inspected op supervised pending =>
    rcases hk with rfl | rfl <;>
      exact hkept (h.toSupCore.withContexts h.valid.slot0.contextOk h.valid.slot1.contextOk) rfl
  | approved op supervisor supervised pending names decision epoch expiry =>
    subst supervisor
    have happrove := hbroker.approve pending (add_one_ne_zero epoch) expiry
    exact
      { (h.toSupCore.withBroker hr.state happrove nofun
          fun _ => .inr rfl).answered (.inl rfl) .ok 0 with
        approved_epoch := fun _ => ⟨rfl, expiry⟩ }
  | concluded op supervisor supervised open_request names decision epoch =>
    subst supervisor
    have hdead : rt.broker.state ≠ .dead := by
      rcases open_request with ho | ho <;> rw [ho] <;> decide
    have hblocked := h.blocked_of_open open_request
    have hsettled := h.toSupCore.settle hr.state hblocked
      (hbroker.conclude hdead (add_one_ne_zero epoch)) nofun
      h.sup.effectOk
    exact
      { (hsettled.answered (.inr rfl) _ 0).answered (.inl rfl) .ok 0 with
        approved_epoch := fun ha => ApprovalBrokerState.noConfusion ha }
  | exhausted op supervisor supervised open_request epoch =>
    subst supervisor
    have hdead : rt.broker.state ≠ .dead := by
      rcases open_request with ho | ho <;> rw [ho] <;> decide
    have hblocked := h.blocked_of_open open_request
    have hsettled := h.toSupCore.settle hr.state hblocked
      (hbroker.close hdead rt.broker.supervisorTaskId rt.broker.supervisorGeneration)
      ApprovalBrokerState.noConfusion h.sup.effectOk
    exact
      { (hsettled.answered (.inr rfl) .brokerUnavailable 0).answered (.inl rfl)
          .brokerUnavailable 0 with
        approved_epoch := nofun }
  | committed op supervisor supervised approval names argument vacant bound epoch =>
    subst supervisor
    have hblocked := h.blocked_of_open (.inr approval)
    have hsettled := h.toSupCore.settle hr.state hblocked
      (hbroker.conclude (by rw [approval]; decide) (add_one_ne_zero epoch))
      ApprovalBrokerState.noConfusion (h.sup.effectOk.fill bound (rt.input senderTaskId).rdx)
    exact
      { (hsettled.answered (.inr rfl) .ok _).answered (.inl rfl) .ok 0 with
        approved_epoch := fun ha => ApprovalBrokerState.noConfusion ha }

end SupInv

/-! ## Teardown -/

namespace SupCore

variable {rt : Runtime} {task : UInt64}

/-- The broker that the workload leaves behind. -/
theorem released_broker (h : SupCore rt) :
    BrokerOk (Runtime.releaseWorkload rt).broker rt.task1.state := by
  have hb := h.sup.brokerOk
  by_cases hc : rt.broker.state = .closing ∨ rt.broker.state = .dead
  · have hstate : (Runtime.releaseWorkload rt).broker.state = rt.broker.state :=
      if_neg (not_not.mpr hc)
    refine ⟨?_, ?_, ?_, nofun⟩
    · unfold BrokerStateOk
      rw [hstate]
      rcases hc with hc | hc <;> rw [hc] <;> exact ⟨rfl, rfl, rfl, rfl, rfl⟩
    · rw [hstate]
      exact hb.live
    · intro hd
      rw [hstate] at hd
      show ({ rt.broker.clearRequest with
        state := (Runtime.releaseWorkload rt).broker.state
        workloadTaskId := 0
        workloadGeneration := 0 } : ApprovalBroker) = ApprovalBroker.dead
      rw [hstate, hb.dead hd]
      rfl
  · have hstate : (Runtime.releaseWorkload rt).broker.state =
        if rt.task0.state = .dead then .closing else .empty := if_pos hc
    have hstate : (Runtime.releaseWorkload rt).broker.state = .closing ∨
        (Runtime.releaseWorkload rt).broker.state = .empty := by
      rw [hstate]
      split
      · exact .inl rfl
      · exact .inr rfl
    rw [not_or] at hc
    refine ⟨?_, fun _ => hb.live hc.2, ?_, nofun⟩
    · unfold BrokerStateOk
      rcases hstate with hs | hs <;> rw [hs] <;> exact ⟨rfl, rfl, rfl, rfl, rfl⟩
    · intro hd
      rcases hstate with hs | hs <;> rw [hs] at hd <;> cases hd

/-- The first phase keeps the invariant, and leaves no approval behind. -/
theorem begun (h : SupCore rt) (hx : Exited rt task)
    (hlive : (rt.slotOf task).capabilities.state = .live) {rt' : Runtime}
    (hb : TeardownBegun rt task rt') : SupInv rt' := by
  have huncooperative : rt.profile ≠ .cooperative := by rw [h.profile]; decide
  have hbroker := h.sup.brokerOk
  cases hb with
  | sender cooperative | senderWakes cooperative | receiver cooperative =>
    exact absurd cooperative huncooperative
  | supervisor supervised quiet =>
    have hs0 : rt.task0.state = .exited := hx.state
    have hdead : rt.broker.state ≠ .dead := h.broker_alive (by rw [hs0]; decide)
    have hclose : BrokerOk _ rt.task1.state := hbroker.close hdead 0 0
    exact
      { h with
        valid := valid_of h.profile
          { h.valid.toSlotsOk with slot0 := h.valid.slot0.close hs0 hlive }
          { h.sup with
            broker_state := hclose.state
            broker_live := hclose.live
            broker_dead := hclose.dead
            request := hclose.request
            effect_empty := EffectOk.of_empty.empty
            effect_bound := EffectOk.of_empty.bound
            all_dead := fun hd _ => nomatch hs0.symm.trans hd }
        waiting := fun hb => absurd hb quiet
        broker_open := fun hc => absurd rfl hc
        broker_alive := fun _ => nofun
        approved_epoch := nofun }
  | supervisorWakes supervised blocked told =>
    have hs0 : rt.task0.state = .exited := hx.state
    have hlive1 : rt.task1.state.isLive = true := by rw [blocked]; rfl
    have hdead1 : rt.task1.state ≠ .dead := SlotOk.not_dead_of_live hlive1
    have hclose : BrokerOk _ TaskState.ready :=
      hbroker.close (h.broker_alive (by rw [hs0]; decide)) 0 0
    exact
      { h with
        valid := valid_of h.profile
          { h.valid.toSlotsOk.closedAndWoken h.id0 h.id1 hs0 hlive hlive1
              (by rw [blocked]; decide) _ with }
          { h.sup with
            workload_state := nofun
            workload_generation := fun _ => h.sup.workload_generation hdead1
            staged := nofun
            launched := fun _ _ => h.sup.launched (by rw [blocked]; decide) hdead1
            unlaunched := nofun
            broker_state := hclose.state
            broker_live := hclose.live
            broker_dead := hclose.dead
            request := hclose.request
            effect_empty := EffectOk.of_empty.empty
            effect_bound := EffectOk.of_empty.bound
            all_dead := nofun }
        phase := .inl ⟨show rt.task0.state.isActive = true by rw [hs0]; rfl, rfl⟩
        waiting := nofun
        broker_open := fun hc => absurd rfl hc
        broker_alive := fun _ => nofun
        approved_epoch := nofun }
  | workload supervised =>
    have hs1 : rt.task1.state = .exited := hx.state
    have hrelease := h.released_broker
    have hnone : (Runtime.releaseWorkload rt).broker.requestPresent = false := rfl
    have hclosed : (Runtime.releaseWorkload rt).broker.state ≠ .approved := by
      intro ha
      have hs := hrelease.state
      unfold BrokerStateOk at hs
      rw [ha] at hs
      exact nomatch hnone.symm.trans hs.1
    have hopen : (Runtime.releaseWorkload rt).broker.state ≠ .closing →
        (Runtime.releaseWorkload rt).broker.state ≠ .dead →
        rt.broker.state ≠ .closing ∧ rt.broker.state ≠ .dead := by
      intro hc hd
      by_contra hbad
      rw [not_and_or, not_not, not_not] at hbad
      have hstate : (Runtime.releaseWorkload rt).broker.state = rt.broker.state :=
        if_neg (not_not.mpr hbad)
      rw [hstate] at hc hd
      rcases hbad with hbad | hbad
      · exact hc hbad
      · exact hd hbad
    have halive : rt.broker.state ≠ .dead → (Runtime.releaseWorkload rt).broker.state ≠ .dead := by
      intro hd
      show (if _ then if _ then _ else _ else _) ≠ ApprovalBrokerState.dead
      split
      · split <;> decide
      · exact hd
    exact
      { h with
        valid := valid_of h.profile
          { h.valid.toSlotsOk with slot1 := h.valid.slot1.close hs1 hlive }
          { h.sup with
            staged := fun hs => nomatch hs1.symm.trans hs
            launched := fun _ _ hc => absurd rfl hc
            unlaunched := fun _ => rfl
            broker_state := hrelease.state
            broker_live := hrelease.live
            broker_dead := hrelease.dead
            request := hrelease.request
            all_dead := fun _ hd => nomatch hs1.symm.trans hd }
        waiting := fun hb => nomatch hs1.symm.trans hb
        broker_open := fun hc hd => h.broker_open (hopen hc hd).1 (hopen hc hd).2
        broker_alive := fun hd => halive (h.broker_alive hd)
        released := fun _ => rfl
        approved_epoch := fun ha => absurd ha hclosed }

/-- The peer of a task whose handles are closed is ready, dead, or a workload that the exited
supervisor has never launched. -/
theorem peer_states (h : SupCore rt) (hx : Exited rt task)
    (hclosing : (rt.slotOf task).capabilities.state = .closing) :
    ((rt.slotOf (peerOf task)).state = .ready ∧ rt.queue = RunQueue.ofList [peerOf task] ∨
      (rt.slotOf (peerOf task)).state = .dead ∧ rt.queue = RunQueue.ofList []) ∨
    task = senderTaskId ∧ rt.task1.state = .staged ∧ rt.queue = RunQueue.ofList [] := by
  rcases h.valid.toSlotsOk.peer_of_exited h.id0 h.id1 h.phase hx with hready | ⟨hidle, hq⟩
  · exact .inl (.inl hready)
  · rcases hx.known with rfl | rfl
    · rcases hidle with hs | hs | hs | hs
      · exact .inl (.inr ⟨hs, hq⟩)
      · exact .inr ⟨rfl, hs, hq⟩
      · exact absurd hs h.sup.workload_state
      · have hopen := h.waiting hs
        have hc : rt.broker.state ≠ .closing := by rcases hopen with ho | ho <;> rw [ho] <;> decide
        have hd : rt.broker.state ≠ .dead := by rcases hopen with ho | ho <;> rw [ho] <;> decide
        exact absurd hclosing (h.broker_open hc hd).2
    · refine .inl (.inr ⟨hidle.resolve_right ?_, hq⟩)
      rintro (hs | hs | hs)
      · exact h.supervisor_state.1 hs
      · exact h.sup.supervisor_state hs
      · exact h.supervisor_state.2 hs

/-- What the second phase leaves passes the supervised part of the check. -/
theorem buried_sup (h : SupCore rt) (hx : Exited rt task)
    (hclosing : (rt.slotOf task).capabilities.state = .closing) : SupOk (rt.buried task) := by
  by_cases hpeer : (rt.slotOf (peerOf task)).state = .dead
  · rw [buried_of_peer_dead hx.known hpeer]
    rcases hx.known with rfl | rfl
    · exact SupOk.finished rfl hpeer rfl rfl rfl rfl
    · exact SupOk.finished hpeer rfl rfl rfl rfl rfl
  · rw [buried_of_peer_alive hx.known hpeer]
    rcases hx.known with rfl | rfl
    · have hdead : BrokerOk ApprovalBroker.dead rt.task1.state := BrokerOk.of_dead
      rw [if_pos ⟨h.profile, rfl⟩]
      exact
        { h.sup with
          supervisor_state := nofun
          supervisor_generation := fun hd => absurd rfl hd
          broker_state := hdead.state
          broker_live := hdead.live
          broker_dead := hdead.dead
          request := hdead.request
          effect_empty := EffectOk.of_empty.empty
          effect_bound := EffectOk.of_empty.bound
          all_dead := fun _ hd => absurd hd hpeer }
    · rw [if_neg (by rintro ⟨-, hbad⟩; cases hbad)]
      have hs1 : rt.task1.state = .exited := hx.state
      obtain ⟨hpending, happroved⟩ := h.closed_of_unblocked (by rw [hs1]; decide)
      exact
        { h.sup with
          workload_state := nofun
          workload_generation := fun hd => absurd rfl hd
          staged := nofun
          launched := fun _ hd => absurd rfl hd
          unlaunched := fun _ => h.released hclosing
          broker_state := (h.sup.brokerOk.idle hpending happroved).state
          all_dead := fun hd _ => absurd hd hpeer }

/-- The runtime of the second phase passes its check before the dispatch. -/
theorem buried_valid (h : SupCore rt) (hx : Exited rt task)
    (hclosing : (rt.slotOf task).capabilities.state = .closing) : Valid (rt.buried task) := by
  refine valid_of ?_ (h.valid.toSlotsOk.buried hx) (h.buried_sup hx hclosing)
  rw [buried_profile hx.known]
  exact h.profile

/-- The second phase keeps the invariant. -/
theorem completed (h : SupCore rt) (hx : Exited rt task)
    (hclosing : (rt.slotOf task).capabilities.state = .closing) {next : Option UInt64}
    {rt' : Runtime} (hc : TeardownCompleted rt task next rt') : SupInv rt' := by
  cases hc with
  | finished dead =>
    have hvalid := h.buried_valid hx hclosing
    rw [buried_of_peer_dead hx.known dead] at hvalid ⊢
    rcases hx.known with rfl | rfl
    · exact
        { h with
          valid := hvalid
          phase := .inr (.inr ⟨rfl, dead⟩)
          supervisor_state := ⟨nofun, nofun⟩
          waiting := fun hb => nomatch dead.symm.trans hb
          broker_open := fun _ hd => absurd rfl hd
          broker_alive := fun hd => absurd rfl hd
          released := fun _ => rfl
          approved_epoch := nofun }
    · exact
        { h with
          valid := hvalid
          phase := .inr (.inr ⟨dead, rfl⟩)
          waiting := nofun
          broker_open := fun _ hd => absurd rfl hd
          broker_alive := fun hd => absurd dead hd
          released := fun _ => rfl
          approved_epoch := nofun }
  | handedOver ready =>
    have hslots := h.valid.toSlotsOk.handedOver hx ready
    have hsup := h.buried_sup hx hclosing
    have hpeer : (rt.slotOf (peerOf task)).state ≠ .dead := by rw [ready]; decide
    rw [buried_of_peer_alive hx.known hpeer] at hslots hsup ⊢
    rcases hx.known with rfl | rfl
    · have hs1 : rt.task1.state = .ready := ready
      rw [if_pos ⟨h.profile, rfl⟩] at hslots hsup ⊢
      exact
        { h with
          valid := valid_of h.profile hslots
            { hsup with
              workload_state := nofun
              workload_generation := fun _ => hsup.workload_generation hpeer
              staged := nofun
              launched := fun _ _ => hsup.launched
                (show rt.task1.state ≠ .staged by rw [hs1]; decide) hpeer
              unlaunched := nofun
              broker_state := BrokerOk.of_dead.state
              all_dead := nofun }
          phase := .inr (.inl ⟨rfl, rfl⟩)
          supervisor_state := ⟨nofun, nofun⟩
          waiting := nofun
          broker_open := fun _ hd => absurd rfl hd
          broker_alive := fun hd => absurd rfl hd
          approved_epoch := nofun }
    · have hs0 : rt.task0.state = .ready := ready
      have hs1 : rt.task1.state = .exited := hx.state
      obtain ⟨-, happroved⟩ := h.closed_of_unblocked (by rw [hs1]; decide)
      rw [if_neg (by rintro ⟨-, hbad⟩; cases hbad)] at hslots hsup ⊢
      exact
        { h with
          valid := valid_of h.profile hslots
            { hsup with
              supervisor_state := nofun
              supervisor_generation := fun _ => hsup.supervisor_generation hpeer
              all_dead := nofun }
          phase := .inl ⟨rfl, rfl⟩
          supervisor_state := ⟨nofun, nofun⟩
          waiting := nofun
          broker_open := fun hc hd => ⟨nofun, (h.broker_open hc hd).2⟩
          broker_alive := fun _ => h.broker_alive (by rw [hs0]; decide)
          released := nofun
          approved_epoch := fun ha => absurd ha happroved }

end SupCore

end MakopaVerified.TaskRuntime
