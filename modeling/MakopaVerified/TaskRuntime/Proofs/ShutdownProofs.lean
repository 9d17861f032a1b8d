import MakopaVerified.TaskRuntime.Proofs.AuthorityProofs
import MakopaVerified.TaskRuntime.Proofs.ConfinementProofs
import MakopaVerified.TaskRuntime.Proofs.ContextProofs

/-!
# Shutdown leaves nothing behind

`Tidy` is kept by every call of the kernel: a trap leaves dead slots and the bindings alone, the
first phase of a teardown undoes the bindings of its task, and the second phase clears its slot.
Together with the invariants of the profiles it fixes every field of a runtime whose tasks are both
dead. A publication that fails ends in the same value, since each of its errors goes through the
rollback.
-/

namespace MakopaVerified.TaskRuntime

open Foundation TaskRuntime.Runtime KernelRuntime

variable {rt : Runtime} {task : UInt64}

namespace Runtime

variable {rt rt' : Runtime} {task t : UInt64}

/-! ## Calls that tear nothing down -/

/-- What matters to `Tidy` about a call that tears nothing down. -/
structure LeavesDead (rt rt' : Runtime) : Prop where
  slots : ∀ t, KnownTask t → (rt'.slotOf t).state = .dead → rt'.slotOf t = rt.slotOf t
  released : ∀ t, KnownTask t → (rt'.Released t ↔ rt.Released t)
  supervisor : rt'.broker.supervisorTaskId = rt.broker.supervisorTaskId
  workload : rt'.broker.workloadTaskId = rt.broker.workloadTaskId
  effect : rt'.effect = rt.effect ∨ ¬ rt.Released senderTaskId

theorem Tidy.kept (h : rt.Tidy) (hk : LeavesDead rt rt') : rt'.Tidy where
  dead_slots := by
    intro t ht hdead
    have hsame := hk.slots t ht hdead
    rw [hsame] at hdead ⊢
    exact h.dead_slots t ht hdead
  supervisor := by
    rw [hk.supervisor, hk.released _ (.inl rfl)]
    exact h.supervisor
  workload := by
    rw [hk.workload, hk.released _ (.inr rfl)]
    exact h.workload
  effect := by
    intro hreleased
    rw [hk.released _ (.inl rfl)] at hreleased
    rcases hk.effect with he | hnot
    · rw [he]
      exact h.effect hreleased
    · exact absurd hreleased hnot

theorem released_of_tables (h : (rt'.slotOf t).capabilities.state = (rt.slotOf t).capabilities.state) :
    rt'.Released t ↔ rt.Released t := by
  unfold Released
  rw [h]

theorem Released.not_live (h : rt.Released t) : (rt.slotOf t).capabilities.state ≠ .live := by
  rcases h with h | h
  · rw [h]
    decide
  · rw [h]
    decide

end Runtime

theorem TablesKept.released_iff {rt' : Runtime} (h : TablesKept rt rt') {t : UInt64}
    (ht : KnownTask t) : rt'.Released t ↔ rt.Released t := by
  rcases ht with rfl | rfl
  · exact released_of_tables h.state0
  · rcases h.state1 with h1 | ⟨h1, h1'⟩
    · exact released_of_tables h1
    · unfold Runtime.Released
      rw [slotOf_receiver, slotOf_receiver, h1, h1']
      decide

namespace Runtime

variable {rt rt' : Runtime} {task : UInt64}

/-- The running task is not being torn down. -/
theorem Running.not_released (hr : rt.Running task) (hs : SlotsOk rt) : ¬ rt.Released task := by
  have hlive : (rt.slotOf task).capabilities.state = .live := by
    rcases hr with ⟨rfl, hr⟩ | ⟨rfl, hr⟩
    · exact hs.slot0.table_live (by rw [hr]; rfl)
    · exact hs.slot1.table_live (by rw [hr]; rfl)
  exact fun hrel => hrel.not_live hlive

/-- Only the slot of one task changes, and that task is alive. -/
theorem LeavesDead.mapSlot (hk : KnownTask task) {f : TaskSlot → TaskSlot}
    (halive : (f (rt.slotOf task)).state ≠ .dead)
    (htables : TablesKept rt (mapSlot task f rt)) :
    LeavesDead rt (mapSlot task f rt) where
  slots := by
    intro t ht hdead
    by_cases htask : t = task
    · subst htask
      rw [slotOf_mapSlot hk] at hdead
      exact absurd hdead halive
    · obtain rfl := eq_peerOf ht hk (Ne.symm htask)
      exact slotOf_mapSlot_peer hk
  released := fun t ht => htables.released_iff ht
  supervisor := by rw [mapSlot_broker]
  workload := by rw [mapSlot_broker]
  effect := .inl (mapSlot_effect ..)

/-- Both slots are given, and neither changes into a dead one. -/
theorem LeavesDead.of_slots (htables : TablesKept rt rt')
    (h0 : rt'.task0.state = .dead → rt'.task0 = rt.task0)
    (h1 : rt'.task1.state = .dead → rt'.task1 = rt.task1)
    (hs : rt'.broker.supervisorTaskId = rt.broker.supervisorTaskId)
    (hw : rt'.broker.workloadTaskId = rt.broker.workloadTaskId)
    (he : rt'.effect = rt.effect ∨ ¬ rt.Released senderTaskId) : LeavesDead rt rt' where
  slots := by
    rintro t (rfl | rfl) hdead
    · exact h0 hdead
    · exact h1 hdead
  released := fun t ht => htables.released_iff ht
  supervisor := hs
  workload := hw
  effect := he

end Runtime

/-- A trap leaves what is dead alone. -/
theorem TrapEffect.leavesDead {rt' : Runtime} {outcome : TrapOutcome} (hs : SlotsOk rt)
    (hr : rt.Running task) (he : TrapEffect rt task outcome rt') :
    rt.LeavesDead rt' := by
  have htables := he.tablesKept hr.known
  have hrun : (rt.slotOf task).state ≠ .dead := by
    rw [hr.state]
    decide
  cases he with
  | refused | kept | inspected | duplicated | closed => exact .mapSlot hr.known hrun htables
  | exited => exact .mapSlot hr.known nofun htables
  | yielded op other known waiting =>
    rcases hr.known with rfl | rfl
    · obtain rfl : _ = receiverTaskId := known.resolve_left other
      exact .of_slots htables nofun nofun rfl rfl (.inl rfl)
    · obtain rfl : _ = senderTaskId := known.resolve_right other
      exact .of_slots htables nofun nofun rfl rfl (.inl rfl)
  | stored op sender =>
    subst sender
    exact .of_slots htables (fun hd => absurd hd hrun) (fun _ => rfl) rfl rfl (.inl rfl)
  | took op receiver =>
    subst receiver
    exact .of_slots htables (fun _ => rfl) (fun hd => absurd hd hrun) rfl rfl (.inl rfl)
  | approved op supervisor =>
    subst supervisor
    exact .of_slots htables (fun hd => absurd hd hrun) (fun _ => rfl) rfl rfl (.inl rfl)
  | delivered op sender | launched op sender | concluded op sender | exhausted op sender =>
    subst sender
    exact .of_slots htables (fun hd => absurd hd hrun) TaskState.noConfusion rfl rfl (.inl rfl)
  | blocked | submitted =>
    exact .of_slots htables nofun nofun rfl rfl (.inl rfl)
  | committed op supervisor =>
    subst supervisor
    exact .of_slots htables (fun hd => absurd hd hrun) nofun rfl rfl
      (.inr (hr.not_released hs))

theorem JournaledEffect.leavesDead {jr jr' : JournaledRuntime} {outcome : TrapOutcome}
    (hs : SlotsOk jr.runtime) (hr : jr.runtime.Running task)
    (he : JournaledEffect jr task outcome jr') : jr.runtime.LeavesDead jr'.runtime := by
  have hrun : (jr.runtime.slotOf task).state ≠ .dead := by
    rw [hr.state]
    decide
  cases he with
  | unrecorded inner | requested inner | approved inner | concluded inner | committed inner =>
    exact inner.leavesDead hs hr
  | read => exact .mapSlot hr.known hrun (.mapSlot hr.known fun _ => rfl)
  | failed live supervisor =>
    subst supervisor
    exact .of_slots (.of_eq rfl rfl) (fun hd => absurd hd hrun) nofun rfl rfl
      (.inl rfl)

/-- Captured registers are those of the running task. -/
theorem Runtime.Running.leavesDead_captured {root : UInt64} {frame : TrapFrame}
    (hr : rt.Running task) : rt.LeavesDead (rt.captured task root frame) := by
  refine .mapSlot hr.known ?_ (.mapSlot hr.known fun _ => rfl)
  show (rt.slotOf task).state ≠ .dead
  rw [hr.state]
  decide

/-! ## Teardowns -/

/-- The slots after the second phase. -/
theorem TeardownCompleted.slots {rt' : Runtime} {next : Option UInt64} (hk : KnownTask task)
    (hc : TeardownCompleted rt task next rt') :
    rt'.slotOf task = (rt.slotOf task).buried ∧
      (rt'.slotOf (peerOf task) = rt.slotOf (peerOf task) ∨
        (rt'.slotOf (peerOf task)).state ≠ .dead) := by
  have hself := @Runtime.slotOf_buried_self rt task hk
  have hpeer := @Runtime.slotOf_buried_peer rt task hk
  cases hc with
  | finished => exact ⟨hself, .inl hpeer⟩
  | handedOver ready =>
    rcases hk with rfl | rfl <;> exact ⟨hself, .inr nofun⟩

namespace Runtime.Tidy

variable {rt rt' : Runtime} {task : UInt64}

/-- The first phase undoes the bindings of its task. -/
theorem begun (h : rt.Tidy)
    (hunbound : rt.profile = .cooperative →
      rt.broker = ApprovalBroker.dead ∧ rt.effect = SyntheticEffect.empty)
    (hx : Exited rt task) (hb : TeardownBegun rt task rt') : rt'.Tidy := by
  have halive : (rt.slotOf task).state ≠ .dead := by
    rw [hx.state]
    decide
  have hslot0 : rt.task0.state = .dead → rt.task0 = TaskSlot.cleared senderTaskId :=
    h.dead_slots senderTaskId (.inl rfl)
  have hslot1 : rt.task1.state = .dead → rt.task1 = TaskSlot.cleared receiverTaskId :=
    h.dead_slots receiverTaskId (.inr rfl)
  cases hb with
  | sender cooperative quiet =>
    obtain ⟨hbroker, heffect⟩ := hunbound cooperative
    refine ⟨?_, .inl (congrArg _ hbroker), .inl (congrArg _ hbroker), fun _ => heffect⟩
    rintro t (rfl | rfl) hdead
    · exact absurd hdead halive
    · exact hslot1 hdead
  | senderWakes cooperative vacant blocked =>
    obtain ⟨hbroker, heffect⟩ := hunbound cooperative
    refine ⟨?_, .inl (congrArg _ hbroker), .inl (congrArg _ hbroker), fun _ => heffect⟩
    rintro t (rfl | rfl) hdead
    · exact absurd hdead halive
    · exact nomatch hdead
  | receiver cooperative =>
    obtain ⟨hbroker, heffect⟩ := hunbound cooperative
    refine ⟨?_, .inl (congrArg _ hbroker), .inl (congrArg _ hbroker), fun _ => heffect⟩
    rintro t (rfl | rfl) hdead
    · exact hslot0 hdead
    · exact absurd hdead halive
  | supervisor supervised quiet =>
    refine ⟨?_, .inl rfl, h.workload, fun _ => rfl⟩
    rintro t (rfl | rfl) hdead
    · exact absurd hdead halive
    · exact hslot1 hdead
  | supervisorWakes supervised blocked told =>
    refine ⟨?_, .inl rfl, h.workload, fun _ => rfl⟩
    rintro t (rfl | rfl) hdead
    · exact absurd hdead halive
    · exact nomatch hdead
  | workload supervised =>
    refine ⟨?_, h.supervisor, .inl rfl, h.effect⟩
    rintro t (rfl | rfl) hdead
    · exact hslot0 hdead
    · exact absurd hdead halive

/-- The second phase clears the slot of its task. -/
theorem completed (h : rt.Tidy) (hid : (rt.slotOf task).id = task) (hx : Exited rt task)
    (hclosing : (rt.slotOf task).capabilities.state = .closing) {next : Option UInt64}
    (hc : TeardownCompleted rt task next rt') : rt'.Tidy := by
  obtain ⟨hself, hpeer⟩ := hc.slots hx.known
  obtain ⟨hdeadTable, hpeerTable⟩ := hc.tables hx.known
  -- the task was released before, and its peer is released if it was
  have hreleased : ∀ t, KnownTask t → (rt'.Released t ↔ rt.Released t) := by
    intro t ht
    by_cases htask : t = task
    · subst htask
      unfold Runtime.Released
      rw [hdeadTable, hclosing]
      decide
    · obtain rfl := eq_peerOf ht hx.known (Ne.symm htask)
      exact released_of_tables (congrArg _ hpeerTable)
  refine ⟨?_, ?_, ?_, ?_⟩
  · intro t ht hdead
    by_cases htask : t = task
    · subst htask
      rw [hself]
      show TaskSlot.cleared (rt.slotOf t).id = _
      rw [hid]
    · obtain rfl := eq_peerOf ht hx.known (Ne.symm htask)
      rcases hpeer with hsame | halive
      · rw [hsame] at hdead ⊢
        exact h.dead_slots _ ht hdead
      · exact absurd hdead halive
  · rcases hc.broker hx.known with hb | hb
    · rw [hb, hreleased _ (.inl rfl)]
      exact h.supervisor
    · exact .inl (by rw [hb]; rfl)
  · rcases hc.broker hx.known with hb | hb
    · rw [hb, hreleased _ (.inr rfl)]
      exact h.workload
    · exact .inl (by rw [hb]; rfl)
  · intro hrel
    rcases hc.effect hx.known with he | ⟨he, -⟩
    · rw [he]
      exact h.effect ((hreleased _ (.inl rfl)).mp hrel)
    · exact he

end Runtime.Tidy

/-! ## Whole runs -/

namespace KernelInv

variable {kind : KernelRuntimeKind} {k k' : KernelRuntime} {e : KernelEvent}

theorem unbound (h : KernelInv kind k) (hp : k.runtime.profile = .cooperative) :
    k.runtime.broker = ApprovalBroker.dead ∧ k.runtime.effect = SyntheticEffect.empty := by
  cases h with
  | cooperative inv => exact ⟨inv.coop.broker_dead, inv.coop.effect_empty⟩
  | supervised inv => exact nomatch inv.profile.symm.trans hp
  | journaled inv => exact nomatch inv.sup.profile.symm.trans hp

theorem slot_id (h : KernelInv kind k) (hk : KnownTask task) :
    (k.runtime.slotOf task).id = task := by
  rcases hk with rfl | rfl
  · exact h.slots.2.1
  · exact h.slots.2.2

/-- Every call leaves a tidy runtime. -/
theorem tidy_effect (h : KernelInv kind k) (ht : k.runtime.Tidy) (he : KernelEffect k e k') :
    k'.runtime.Tidy := by
  have hunbound := h.unbound
  have hid : ∀ {task : UInt64}, KnownTask task → (k.runtime.slotOf task).id = task := h.slot_id
  cases he with
  | @trap rt rt' task root frame outcome running root_ne effect =>
    have hcaptured : SlotsOk (rt.captured task root frame) := (h.captured running root_ne).slots.1
    exact (ht.kept running.leavesDead_captured).kept
      (effect.leavesDead hcaptured running.captured)
  | begun exited live effect => exact ht.begun hunbound exited effect
  | completed exited closing effect => exact ht.completed (hid exited.known) exited closing effect
  | @journaledTrap jr jr' task root frame outcome running root_ne effect =>
    have hcaptured : SlotsOk (jr.runtime.captured task root frame) :=
      (h.captured running root_ne).slots.1
    exact (ht.kept running.leavesDead_captured).kept
      (effect.leavesDead hcaptured running.captured)
  | @journaledBegun jr jr' task exited live effect =>
    cases effect with
    | quiet inner => exact ht.begun hunbound exited inner
    | terminal inner live decision =>
      have hbumped : jr.runtime.bumped.Tidy :=
        ⟨ht.dead_slots, ht.supervisor, ht.workload, ht.effect⟩
      have hsup : jr.runtime.bumped.profile = .supervised := by
        cases h with
        | journaled inv => exact inv.sup.profile
      exact hbumped.begun (fun hp => nomatch hsup.symm.trans hp)
        ⟨exited.known, exited.state⟩ inner
  | journaledCompleted exited closing effect =>
    exact ht.completed (hid exited.known) exited closing effect
  | reclaimed => exact ht

/-- What holds of a started supervisor. -/
theorem tidy_started {supervisor workload : TaskContext} {t : CapabilityTable}
    (hrt : rt = Runtime.startedSupervised supervisor workload t) (h : SupInv rt) : rt.Tidy := by
  have hlive : ¬ rt.Released senderTaskId :=
    Runtime.Running.not_released (.inl ⟨rfl, by rw [hrt]; rfl⟩) h.valid.toSlotsOk
  subst hrt
  refine ⟨?_, .inr ⟨rfl, hlive⟩, .inr ⟨rfl, ?_⟩, fun hrel => absurd hrel hlive⟩
  · rintro t (rfl | rfl) hdead
    · exact nomatch hdead
    · exact nomatch hdead
  · rintro (hrel | hrel)
    · exact nomatch hrel
    · exact nomatch hrel

theorem tidy_booted (h : Booted kind k) : k.runtime.Tidy := by
  obtain ⟨k₀, next, hpublished, hdispatch⟩ := h
  cases hpublished with
  | cooperative hnew =>
    obtain ⟨rt', hrt, rfl⟩ := call_base_eq hdispatch
    obtain ⟨hinv, hrunning, -, hsend, -⟩ := CoopInv.booted hnew hrt
    have hbroker := hinv.coop.broker_dead
    refine ⟨?_, .inl (congrArg _ hbroker), .inl (congrArg _ hbroker),
      fun _ => hinv.coop.effect_empty⟩
    rintro t (rfl | rfl) hdead
    · have hgone := hinv.valid.slot0.table_dead hdead
      have hinert : rt'.task0.capabilities.Inert :=
        (KernelInv.cooperative hinv).inert (.inl rfl)
          fun hlive => nomatch hgone.symm.trans hlive
      rw [hinert.grants] at hsend
      cases hsend
    · exact nomatch hrunning.symm.trans hdead
  | supervised hnew =>
    obtain ⟨rt', hrt, rfl⟩ := call_base_eq hdispatch
    obtain ⟨hinv, t, hstarted, -⟩ := SupInv.booted hnew hrt
    exact tidy_started hstarted hinv
  | journaled hnew =>
    obtain ⟨jr', hjr, rfl⟩ := call_journaled_eq hdispatch
    obtain ⟨hinv, t, hstarted, -⟩ := JInv.booted hnew hjr
    exact tidy_started hstarted hinv.sup

/-- Every run keeps the runtime tidy. -/
theorem tidy_run {history : List KernelEvent} (h : Run (kernelSystem kind) history k) :
    k.runtime.Tidy := by
  have hboth : KernelInv kind k ∧ k.runtime.Tidy := by
    refine h.state_invariant (P := fun k => KernelInv kind k ∧ k.runtime.Tidy)
      (fun k hb => ⟨.booted hb, tidy_booted hb⟩) ?_
    rintro k e k' ⟨hinv, ht⟩ hs
    exact ⟨hinv.effect (hinv.step hs), hinv.tidy_effect ht (hinv.step hs)⟩
  exact hboth.2

end KernelInv

/-! ## The final value -/

theorem Runtime.eq_cleared {profile : RuntimeProfile} (hp : rt.profile = profile) (ht : rt.Tidy)
    (hs : SlotsOk rt) (id0 : rt.task0.id = senderTaskId) (id1 : rt.task1.id = receiverTaskId)
    (hdead : rt.AllDead) (hendpoint : rt.endpoint = Endpoint.empty)
    (hmanifest : rt.manifest = ManifestPublication.empty)
    (hbroker : rt.broker = ApprovalBroker.dead) (heffect : rt.effect = SyntheticEffect.empty) :
    rt = cleared profile := by
  have h0 : rt.task0 = TaskSlot.cleared senderTaskId := ht.dead_slots _ (.inl rfl) hdead.1
  have h1 : rt.task1 = TaskSlot.cleared receiverTaskId := ht.dead_slots _ (.inr rfl) hdead.2
  have hqueue : rt.queue = RunQueue.new := by
    refine hs.queue_nil id0 id1 ?_ ?_
    · rw [hdead.1]
      decide
    · rw [hdead.2]
      decide
  obtain ⟨profile', task0, task1, queue, endpoint, manifest, broker, effect⟩ := rt
  subst hp h0 h1 hqueue hendpoint hmanifest hbroker heffect
  rfl

theorem SupInv.eq_cleared (h : SupInv rt) (ht : rt.Tidy) (hdead : rt.AllDead) :
    rt = Runtime.cleared .supervised := by
  obtain ⟨hmanifest, hbroker, heffect⟩ := h.sup.all_dead hdead.1 hdead.2
  exact Runtime.eq_cleared h.profile ht h.valid.toSlotsOk h.id0 h.id1 hdead h.sup.endpoint_empty
    hmanifest hbroker heffect

namespace JInv

variable {jr jr' : JournaledRuntime} {task : UInt64}

theorem live_or_sealed (h : JInv jr) (hdead : jr.journal.state ≠ .dead) : jr.journal.JournalOk := by
  rcases h.journal with hj | hok
  · rw [hj] at hdead
    exact absurd rfl hdead
  · exact hok

/-- A journal that is not dead yet can be reclaimed once both tasks are. -/
theorem reclaims (h : JInv jr) (hdead : jr.runtime.AllDead) (hj : jr.journal.state ≠ .dead) :
    JournaledRuntime.finishReclamation.run jr =
      (.ok (), { jr with journal := EffectJournal.dead }) := by
  have hok := h.live_or_sealed hj
  have htorn : jr.runtime.Torn := .inl (.inr (h.sup.valid.slot0.table_dead hdead.1))
  have hsealed : jr.journal.state = .sealed :=
    hok.state.resolve_left fun hlive => h.live_iff.mp hlive htorn
  unfold JournaledRuntime.finishReclamation
  rw [Method.run_self_bind]
  rw [if_neg]
  · rw [Method.run_update_bind]
    exact JournaledRuntime.run_validateOrRestore jr (h.reclaimed hdead.1 hdead.2).validate
  · have hvalid := EffectJournal.validate_eq_ok.mpr h.journal
    simp [Runtime.tasks, hdead.1, hdead.2, hsealed, hok.sealed_reserved hsealed, hvalid]

theorem not_dead_of_exited (h : JInv jr) (hx : Exited jr.runtime task) :
    jr.journal.state ≠ .dead := by
  intro hd
  obtain ⟨h0, h1⟩ := h.dead_done hd
  have hexited := hx.state
  rcases hx.known with rfl | rfl
  · exact nomatch h0.symm.trans hexited
  · exact nomatch h1.symm.trans hexited

/-- A call other than the reclamation finds and leaves a journal that is not dead. -/
theorem journal_alive {e : KernelEvent} {k' : KernelRuntime} (h : JInv jr)
    (he : KernelEffect (.journaled jr) e k') (hne : e ≠ .finishReclamation) :
    jr.journal.state ≠ .dead ∧ ∃ jr', k' = .journaled jr' ∧ jr'.journal.state ≠ .dead := by
  cases he with
  | journaledTrap running root_ne effect =>
    have halive := h.not_dead running
    refine ⟨halive, _, rfl, ?_⟩
    cases effect with
    | unrecorded | read => exact halive
    | requested | approved | concluded | committed | failed => exact halive
  | journaledBegun exited live effect =>
    refine ⟨h.not_dead_of_exited exited, _, rfl, ?_⟩
    cases effect with
    | quiet inner idle journal =>
      rw [journal]
      exact nofun
    | terminal => exact nofun
  | journaledCompleted exited closing effect =>
    have halive := h.not_dead_of_exited exited
    exact ⟨halive, _, rfl, halive⟩
  | reclaimed => exact absurd rfl hne

/-- The journal is dead exactly when it has been reclaimed. -/
theorem dead_iff_reclaimed {history : List KernelEvent} {k : KernelRuntime}
    (h : Run (kernelSystem .journaled) history k) :
    ∃ jr, k = .journaled jr ∧ JInv jr ∧
      (jr.journal.state = .dead ↔ KernelEvent.finishReclamation ∈ history) := by
  induction h with
  | start hb =>
    obtain ⟨k₀, next, hpublished, hdispatch⟩ := hb
    cases hpublished with
    | journaled hnew =>
      obtain ⟨jr', hjr, rfl⟩ := call_journaled_eq hdispatch
      obtain ⟨hinv, t, hstarted, -⟩ := JInv.booted hnew hjr
      have hrunning : jr'.runtime.Running senderTaskId := .inl ⟨rfl, by rw [hstarted]; rfl⟩
      exact ⟨jr', rfl, hinv, iff_of_false (hinv.not_dead hrunning) List.not_mem_nil⟩
  | @step history k k' e hr hs ih =>
    obtain ⟨jr, rfl, hinv, hiff⟩ := ih
    have he := (KernelInv.journaled hinv).step hs
    have hinv' := (KernelInv.journaled hinv).effect he
    by_cases hfinish : e = .finishReclamation
    · subst hfinish
      cases he with
      | reclaimed =>
        cases hinv' with
        | journaled inv => exact ⟨_, rfl, inv, iff_of_true rfl (by simp)⟩
    · obtain ⟨halive, jr', rfl, halive'⟩ := hinv.journal_alive he hfinish
      cases hinv' with
      | journaled inv =>
        refine ⟨jr', rfl, inv, iff_of_false halive' ?_⟩
        rw [List.mem_append, List.mem_singleton, not_or]
        exact ⟨fun hmem => halive (hiff.mpr hmem), Ne.symm hfinish⟩

end JInv

/-! ## References -/

theorem CapabilityTable.Change.stays_released {t t' : CapabilityTable} (h : t.Change t')
    (hrel : t.state = .closing ∨ t.state = .dead) : t'.state = .closing ∨ t'.state = .dead := by
  cases h with
  | kept => exact hrel
  | duplicated change =>
    rw [change.live] at hrel
    exact absurd hrel (by decide)
  | closed change =>
    rw [change.live] at hrel
    exact absurd hrel (by decide)
  | released => exact .inl rfl
  | buried => exact .inr rfl

theorem KnownTask.ne_zero (h : KnownTask task) : task ≠ 0 := by
  rcases h with rfl | rfl <;> decide

namespace RunQueue

theorem not_mem_entries_nil (h : task ≠ 0) : task ∉ (ofList []).entries := by
  simpa [ofList, new] using h

theorem not_mem_entries_singleton {other : UInt64} (h : task ≠ 0) (hne : task ≠ other) :
    task ∉ (ofList [other]).entries := by
  simpa [ofList] using ⟨hne, h⟩

end RunQueue

namespace KernelInv

variable {kind : KernelRuntimeKind} {k k' : KernelRuntime} {task : UInt64}

theorem slotOk (h : KernelInv kind k) (hk : KnownTask task) :
    SlotOk k.runtime.queue (k.runtime.slotOf task) := by
  rcases hk with rfl | rfl
  · exact h.slots.1.slot0
  · exact h.slots.1.slot1

/-- A task that is being torn down is not ready. -/
theorem not_queued (h : KernelInv kind k) (hk : KnownTask task) (hrel : k.runtime.Released task) :
    k.runtime.queue.contains task = false := by
  have hslot := h.slotOk hk
  rw [Bool.eq_false_iff, ne_eq, ← h.slot_id hk, ← hslot.ready_iff]
  intro hready
  exact hrel.not_live (hslot.table_live (by rw [hready]; rfl))

theorem not_mem_queue (h : KernelInv kind k) (hk : KnownTask task)
    (hrel : k.runtime.Released task) : task ∉ k.runtime.queue.entries := by
  have hnot := h.not_queued hk hrel
  rcases hk with rfl | rfl
  · rcases h.slots.1.queue.without_sender hnot with hq | hq
    · rw [hq]
      exact RunQueue.not_mem_entries_nil (by decide)
    · rw [hq]
      exact RunQueue.not_mem_entries_singleton (by decide) (by decide)
  · rcases h.slots.1.queue.without_receiver hnot with hq | hq
    · rw [hq]
      exact RunQueue.not_mem_entries_nil (by decide)
    · rw [hq]
      exact RunQueue.not_mem_entries_singleton (by decide) (by decide)

/-- A table that is not live holds no entry. -/
theorem no_entry (h : KernelInv kind k) (hk : KnownTask task)
    (hlive : (k.runtime.slotOf task).capabilities.state ≠ .live) {slot : CapabilitySlot}
    (hslot : slot ∈ (k.runtime.slotOf task).capabilities.slots) : slot.entry = none :=
  CapabilityTable.grants_eq_nil.mp (h.inert hk hlive).grants slot hslot

/-- The entries of a table were issued to its own task. -/
theorem entry_owner (h : KernelInv kind k) (hk : KnownTask task) {slot : CapabilitySlot}
    (hslot : slot ∈ (k.runtime.slotOf task).capabilities.slots) {entry : CapabilityEntry}
    (hentry : slot.entry = some entry) : entry.taskId = task := by
  have hok := h.slotOk hk
  by_cases hdead : (k.runtime.slotOf task).capabilities.state = .dead
  · have hnone := h.no_entry hk (by rw [hdead]; decide) hslot
    exact absurd (hentry.symm.trans hnone) (Option.some_ne_none _)
  · have howner := (((hok.tableOk hdead).slots_wf slot hslot).entry_ok entry hentry).task
    have halive : (k.runtime.slotOf task).state ≠ .dead := fun hd => hdead (hok.table_dead hd)
    rw [howner, (hok.owned halive).2.2.2.2.1]
    exact h.slot_id hk

theorem entries_forget (h : KernelInv kind k) (hk : KnownTask task)
    (hrel : k.runtime.Released task) :
    ∀ s ∈ k.runtime.tasks, ∀ slot ∈ s.capabilities.slots, ∀ entry, slot.entry = some entry →
      entry.taskId ≠ task := by
  intro s hs slot hslot entry hentry
  obtain ⟨t, ht, rfl⟩ : ∃ t, KnownTask t ∧ s = k.runtime.slotOf t := by
    rcases List.mem_pair.mp hs with rfl | rfl
    · exact ⟨senderTaskId, .inl rfl, rfl⟩
    · exact ⟨receiverTaskId, .inr rfl, rfl⟩
  rw [h.entry_owner ht hslot hentry]
  rintro rfl
  have hnone := h.no_entry ht hrel.not_live hslot
  exact absurd (hentry.symm.trans hnone) (Option.some_ne_none _)

end KernelInv

section Bindings

variable {rt : Runtime} {task : UInt64}

theorem CoopInv.forgets (h : CoopInv rt) (hk : KnownTask task) (hrel : rt.Released task)
    (hqueue : task ∉ rt.queue.entries)
    (hentries : ∀ s ∈ rt.tasks, ∀ slot ∈ s.capabilities.slots, ∀ entry, slot.entry = some entry →
      entry.taskId ≠ task) : rt.Forgets task where
  queue := hqueue
  sender_side := by
    rcases hk with rfl | rfl
    · rw [(h.coop.sender_gone hrel).1]
      decide
    · rcases h.coop.sender_task with hs | hs
      · rw [hs]
        decide
      · rw [hs]
        decide
  receiver_side := by
    rcases hk with rfl | rfl
    · rcases h.coop.receiver_task with hr | hr
      · rw [hr]
        decide
      · rw [hr]
        decide
    · rw [(h.coop.receiver_gone hrel).1]
      decide
  request := by
    rw [h.coop.broker_dead]
    exact hk.ne_zero.symm
  supervisor_binding := by
    rw [h.coop.broker_dead]
    exact hk.ne_zero.symm
  workload_binding := by
    rw [h.coop.broker_dead]
    exact hk.ne_zero.symm
  manifest := by
    rw [h.coop.manifest_empty]
    exact hk.ne_zero.symm
  effect_owner := by
    rw [h.coop.effect_empty]
    exact hk.ne_zero.symm
  entries := hentries

/-- The broker holds a request only while the workload waits for the decision. -/
theorem BrokerStateOk.request_or_none {b : ApprovalBroker} {workload : TaskState}
    (h : BrokerStateOk b workload) :
    b.requestPresent = true ∧ workload = .blockedApproval ∨ b.NoRequest := by
  unfold BrokerStateOk at h
  split at h
  · exact h.elim
  · exact .inr h
  · exact .inr h
  · exact .inr h
  · exact .inl ⟨h.1, h.2.2.2.2⟩
  · exact .inl ⟨h.1, h.2.2.2.2⟩

namespace SupCore

/-- A request is the workload's, and there is none while the workload is torn down. -/
theorem request_forgets (h : SupCore rt) (hk : KnownTask task) (hrel : rt.Released task) :
    rt.broker.request.workloadTaskId ≠ task := by
  rcases h.sup.broker_state.request_or_none with ⟨hpresent, hblocked⟩ | ⟨-, -, hzero, -⟩
  · rw [(h.sup.request hpresent).2.1]
    rcases hk with rfl | rfl
    · decide
    · exact absurd (h.valid.slot1.table_live (by rw [hblocked]; rfl)) hrel.not_live
  · rw [hzero]
    exact hk.ne_zero.symm

/-- A manifest is published for the workload, and not while the workload is torn down. -/
theorem manifest_forgets (h : SupCore rt) (hk : KnownTask task) (hrel : rt.Released task) :
    rt.manifest.targetTaskId ≠ task := by
  have hempty : rt.manifest = ManifestPublication.empty → rt.manifest.targetTaskId ≠ task := by
    intro hm
    rw [hm]
    exact hk.ne_zero.symm
  by_cases hdead : rt.task1.state = .dead
  · exact hempty (h.sup.unlaunched hdead)
  by_cases hclosing : rt.task1.capabilities.state = .closing
  · exact hempty (h.released hclosing)
  by_cases hstaged : rt.task1.state = .staged
  · exact hempty (h.sup.staged hstaged).1
  · rw [h.sup.launched hstaged hdead hclosing]
    rcases hk with rfl | rfl
    · decide
    · rcases hrel with hrel | hrel
      · exact absurd hrel hclosing
      · exact absurd (h.valid.slot1.dead_of_table hrel) hdead

/-- The effect belongs to the supervisor, and not while the supervisor is torn down. -/
theorem effect_forgets (h : SupCore rt) (ht : rt.Tidy) (hk : KnownTask task)
    (hrel : rt.Released task) : rt.effect.supervisorTaskId ≠ task := by
  rcases hk with rfl | rfl
  · rw [ht.effect hrel]
    decide
  · by_cases hbound : rt.effect.objectGeneration = 0
    · rw [h.sup.effect_empty hbound]
      decide
    · rw [(h.sup.effect_bound hbound).2.1]
      decide

theorem forgets (h : SupCore rt) (ht : rt.Tidy) (hk : KnownTask task) (hrel : rt.Released task)
    (hqueue : task ∉ rt.queue.entries)
    (hentries : ∀ s ∈ rt.tasks, ∀ slot ∈ s.capabilities.slots, ∀ entry, slot.entry = some entry →
      entry.taskId ≠ task) : rt.Forgets task where
  queue := hqueue
  sender_side := by
    rw [h.sup.endpoint_empty]
    exact hk.ne_zero.symm
  receiver_side := by
    rw [h.sup.endpoint_empty]
    exact hk.ne_zero.symm
  request := h.request_forgets hk hrel
  supervisor_binding := by
    rcases ht.supervisor with hs | ⟨hs, hnot⟩
    · rw [hs]
      exact hk.ne_zero.symm
    · rw [hs]
      rintro rfl
      exact hnot hrel
  workload_binding := by
    rcases ht.workload with hw | ⟨hw, hnot⟩
    · rw [hw]
      exact hk.ne_zero.symm
    · rw [hw]
      rintro rfl
      exact hnot hrel
  manifest := h.manifest_forgets hk hrel
  effect_owner := h.effect_forgets ht hk hrel
  entries := hentries

end SupCore

end Bindings

namespace KernelInv

variable {kind : KernelRuntimeKind} {k k' : KernelRuntime} {e : KernelEvent} {task : UInt64}

/-- A tidy runtime does not refer to a task whose teardown has begun. -/
theorem forgets (h : KernelInv kind k) (ht : k.runtime.Tidy) (hk : KnownTask task)
    (hrel : k.runtime.Released task) : k.runtime.Forgets task := by
  have hqueue := h.not_mem_queue hk hrel
  have hentries := h.entries_forget hk hrel
  cases h with
  | cooperative inv => exact inv.forgets hk hrel hqueue hentries
  | supervised inv => exact inv.toSupCore.forgets ht hk hrel hqueue hentries
  | journaled inv => exact inv.sup.toSupCore.forgets ht hk hrel hqueue hentries

/-- Once begun, a teardown is never undone. -/
theorem released_effect (hk : KnownTask task) (hrel : k.runtime.Released task)
    (he : KernelEffect k e k') : k'.runtime.Released task := by
  rcases hk with rfl | rfl
  · exact he.tableChanges.first.stays_released hrel
  · rcases he.tableChanges.second with hchange | hlaunch
    · exact hchange.stays_released hrel
    · rcases hrel with hrel | hrel
      · exact nomatch hlaunch.table.building.symm.trans hrel
      · exact nomatch hlaunch.table.building.symm.trans hrel

theorem released_begun {before after : Runtime}
    (he : KernelEffect k (.beginTeardown task before after) k') :
    KnownTask task ∧ k'.runtime.Released task := by
  have hclosed : ∀ {rt rt' : Runtime}, TeardownBegun rt task rt' → rt'.Released task := by
    intro rt rt' hb
    exact .inl (by rw [hb.tables.1]; rfl)
  cases he with
  | begun exited live effect => exact ⟨exited.known, hclosed effect⟩
  | journaledBegun exited live effect =>
    cases effect with
    | quiet inner => exact ⟨exited.known, hclosed inner⟩
    | terminal inner => exact ⟨exited.known, hclosed inner⟩

/-- A run in which the teardown of a task has begun forgets the task. -/
theorem forgets_run {earlier later : List KernelEvent} {before after : Runtime}
    (h : Run (kernelSystem kind) (earlier ++ .beginTeardown task before after :: later) k) :
    k.runtime.Forgets task := by
  have hrel : (KnownTask task ∧ k.runtime.Released task) ∧ ∀ e ∈ later, True := by
    refine h.after (Q := fun k => KnownTask task ∧ k.runtime.Released task)
      (A := fun e => e = .beginTeardown task before after) ?_ ?_ rfl rfl
    · rintro k e k' ⟨history, hreach⟩ hs rfl
      exact released_begun ((KernelInv.run hreach).step hs)
    · rintro k e k' ⟨history, hreach⟩ ⟨hk, hrel⟩ hs
      exact ⟨⟨hk, released_effect hk hrel ((KernelInv.run hreach).step hs)⟩, trivial⟩
  exact (KernelInv.run h).forgets (tidy_run h) hrel.1.1 hrel.1.2

/-- A run that ends with both tasks dead ends in the final value, but for the journal. -/
theorem final_run {history : List KernelEvent} (h : Run (kernelSystem kind) history k)
    (hdead : k.runtime.AllDead) :
    (KernelEvent.finishReclamation ∉ history →
      KernelRuntime.finishReclamation.run k = (.ok (), KernelRuntime.final kind)) ∧
    (kind ≠ .journaled ∨ KernelEvent.finishReclamation ∈ history →
      k = KernelRuntime.final kind) := by
  have ht := tidy_run h
  cases KernelInv.run h with
  | @cooperative rt inv =>
    have hrt : rt = Runtime.cleared .cooperative :=
      eq_cleared inv.profile ht inv.valid.toSlotsOk inv.id0 inv.id1 hdead
        (inv.coop.all_dead hdead.1 hdead.2) inv.coop.manifest_empty inv.coop.broker_dead
        inv.coop.effect_empty
    subst hrt
    exact ⟨fun _ => rfl, fun _ => rfl⟩
  | @supervised rt inv =>
    obtain rfl : rt = Runtime.cleared .supervised := inv.eq_cleared ht hdead
    exact ⟨fun _ => rfl, fun _ => rfl⟩
  | @journaled jr inv =>
    obtain ⟨jr', hjr, -, hiff⟩ := JInv.dead_iff_reclaimed h
    obtain rfl := KernelRuntime.journaled.inj hjr
    have hrt : jr.runtime = Runtime.cleared .supervised := inv.sup.eq_cleared ht hdead
    refine ⟨fun hno => ?_, fun hyes => ?_⟩
    · have hrun := inv.reclaims hdead fun hd => hno (hiff.mp hd)
      rw [hrt] at hrun
      exact run_call_journaled hrun
    · have hd := hiff.mpr (hyes.resolve_left fun hne => hne rfl)
      have hjournal : jr.journal = EffectJournal.dead :=
        inv.journal.resolve_right fun hok => by
          rcases hok.state with hs | hs
          · exact nomatch hs.symm.trans hd
          · exact nomatch hs.symm.trans hd
      obtain ⟨rt, j⟩ := jr
      subst hrt hjournal
      rfl

end KernelInv

/-- For each profile there is one final value. A run of the kernel that ends with both tasks dead
ends in it, whatever it did before; a journaled run does so by the reclamation, which succeeds. A
publication that fails leaves it as well, wherever and for whatever contexts it fails, and it can be
made to fail before each of its steps. And from the moment a teardown has begun, the runtime does
not refer to its task any more. -/
theorem shutdown_leaves_no_residue :
    (∀ kind history k, Run (kernelSystem kind) history k → k.runtime.AllDead →
      (KernelEvent.finishReclamation ∉ history →
        KernelRuntime.finishReclamation.run k = (.ok (), KernelRuntime.final kind)) ∧
      (kind ≠ .journaled ∨ KernelEvent.finishReclamation ∈ history →
        k = KernelRuntime.final kind)) ∧
    (∀ kind failBeforeStep first second e k,
      KernelRuntime.publication kind failBeforeStep first second = (.error e, k) →
        k = KernelRuntime.final kind) ∧
    (∀ kind step first second, step < KernelRuntime.publicationSteps kind →
      ∃ e, KernelRuntime.publication kind (some step) first second =
        (.error e, KernelRuntime.final kind)) ∧
    ∀ kind earlier task before after later k,
      Run (kernelSystem kind) (earlier ++ .beginTeardown task before after :: later) k →
        k.runtime.Forgets task := by
  refine ⟨fun kind history k h hdead => KernelInv.final_run h hdead,
    fun kind failBeforeStep first second e k h =>
      (publication_ends h).2 e rfl, ?_,
    fun kind earlier task before after later k h => KernelInv.forgets_run h⟩
  intro kind step first second hlt
  rcases hrun : KernelRuntime.publication kind (some step) first second with ⟨result, k⟩
  have hends := publication_ends hrun
  cases result with
  | ok u => exact absurd rfl (hends.1 u rfl step hlt)
  | error e => exact ⟨e, by rw [hends.2 e rfl]⟩

/-- The event tells of a reclamation of the journal. -/
def KernelEvent.reclaims : KernelEvent → Bool
  | .finishReclamation => true
  | _ => false

/-- A journaled run in which the workload is launched, both tasks exit and are torn down, and the
journal is reclaimed; and a publication that is made to fail before its last step. -/
theorem journaled_shutdown_final :
    (∃ history k, Run (kernelSystem .journaled) history k ∧ k.runtime.AllDead ∧
      KernelRuntime.finishReclamation.run k = (.ok (), KernelRuntime.final .journaled) ∧
      k.runtime.Forgets senderTaskId) ∧
    ∃ e, KernelRuntime.publication .journaled (some 6) (.start senderTaskId supervisorGeneration)
      (.start receiverTaskId workloadGeneration) = (.error e, KernelRuntime.final .journaled) := by
  obtain ⟨hfinal, -, hpublication, hforgets⟩ := shutdown_leaves_no_residue
  refine ⟨?_, hpublication .journaled 6 _ _ (by decide)⟩
  have hexec : ∃ r ∈ KernelRuntime.execute .journaled (.start senderTaskId supervisorGeneration)
      (.start receiverTaskId workloadGeneration)
      [.request 6 16 1 0, .request 0 0 0 0, .request 3 0 0 0, .beginTeardown receiverTaskId,
        .completeTeardown receiverTaskId, .request 3 0 0 0, .beginTeardown senderTaskId,
        .completeTeardown senderTaskId],
      r.2.runtime.task0.state = .dead ∧ r.2.runtime.task1.state = .dead ∧
      r.1.all (!·.reclaims) = true ∧ r.1.any (·.tearsDown = some senderTaskId) = true := by
    decide +kernel
  obtain ⟨⟨history, k⟩, hmem, hdead0, hdead1, hno, hbegun⟩ := hexec
  have hrun := execute_run hmem
  have hunreclaimed : KernelEvent.finishReclamation ∉ history :=
    fun hin => absurd (List.all_eq_true.mp hno _ hin) Bool.false_ne_true
  refine ⟨history, k, hrun, ⟨hdead0, hdead1⟩,
    (hfinal .journaled history k hrun ⟨hdead0, hdead1⟩).1 hunreclaimed, ?_⟩
  obtain ⟨e, hin, he⟩ := List.any_eq_true.mp hbegun
  cases e with
  | beginTeardown task before after =>
    obtain rfl : task = senderTaskId := Option.some.inj (of_decide_eq_true he)
    obtain ⟨earlier, later, rfl⟩ := List.append_of_mem hin
    exact hforgets .journaled earlier senderTaskId before after later k hrun
  | trap | completeTeardown | finishReclamation =>
    exact absurd (of_decide_eq_true he) (Option.some_ne_none _).symm

end MakopaVerified.TaskRuntime
