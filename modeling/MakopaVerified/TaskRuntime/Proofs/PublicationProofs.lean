import MakopaVerified.Foundation.Triples
import MakopaVerified.TaskRuntime.Proofs.GrantProofs
import MakopaVerified.TaskRuntime.Proofs.JournaledProofs
import MakopaVerified.TaskRuntime.Shutdown

/-!
# Publications

A publication that succeeds was not made to fail; it has installed the fixed handles and published
the tables. Every error goes through a rollback, and a rollback writes every field but the profile
and the two ids, which no step of a publication touches; the rollback of a supervised publication
also leaves the endpoint, which is empty throughout. So a publication that fails leaves the one value
of its profile, wherever it fails.
-/

namespace MakopaVerified.TaskRuntime

open Foundation Method TaskRuntime.Runtime

variable {supervisor workload : TaskContext}

namespace Runtime

variable {rt : Runtime} {profile : RuntimeProfile} {failBeforeStep : Option Nat} {task : UInt64}

/-- What no step of a publication changes, as far as the rollback relies on it. -/
structure Named (profile : RuntimeProfile) (rt : Runtime) : Prop where
  profile : rt.profile = profile
  id0 : rt.task0.id = senderTaskId
  id1 : rt.task1.id = receiverTaskId
  endpoint : rt.profile = .supervised → rt.endpoint = Endpoint.empty

/-! ## Rollbacks -/

theorem Named.mapTable (h : Named profile rt) (task : UInt64)
    (f : CapabilityTable → CapabilityTable) :
    Named profile (mapSlot task (fun s => { s with capabilities := f s.capabilities }) rt) := by
  unfold mapSlot
  split
  · exact ⟨h.profile, h.id0, h.id1, h.endpoint⟩
  · split
    · exact ⟨h.profile, h.id0, h.id1, h.endpoint⟩
    · exact h

theorem rollbackPublication_eq (h : Named .cooperative rt) (installed : List (UInt64 × UInt64)) :
    rollbackPublication installed rt = cleared .cooperative := by
  have hfold := List.foldlRecOn (motive := Named .cooperative) installed.reverse
    (fun rt pair => mapSlot pair.1
      (fun s => { s with capabilities := CapabilityTable.rollbackInstall pair.2 s.capabilities }) rt)
    h fun rt hrt pair _ => hrt.mapTable pair.1 _
  unfold rollbackPublication cleared
  simp only [rollbackSlot, TaskSlot.cleared, Runtime.mk.injEq, TaskSlot.mk.injEq, and_true]
  exact ⟨hfold.profile, hfold.id0, hfold.id1⟩

theorem rollbackSupervisorPublication_eq (h : Named .supervised rt) (installed : List UInt64) :
    rollbackSupervisorPublication installed rt = cleared .supervised := by
  have hfold := List.foldlRecOn (motive := Named .supervised) installed.reverse
    (fun rt handle => mapSlot senderTaskId
      (fun s => { s with capabilities := CapabilityTable.rollbackInstall handle s.capabilities }) rt)
    h fun rt hrt handle _ => hrt.mapTable senderTaskId _
  unfold rollbackSupervisorPublication cleared
  simp only [rollbackSlot, TaskSlot.cleared, Runtime.mk.injEq, TaskSlot.mk.injEq, and_true,
    true_and]
  exact ⟨hfold.profile, hfold.id0, hfold.id1, hfold.endpoint hfold.profile⟩

/-! ## Steps of a publication -/

theorem onTable_ends {α ε : Type} (hk : KnownTask task) {err : ε → RuntimeError}
    {m : Method CapabilityTable ε α} {Q : α → Runtime → Prop} {E : RuntimeError → Runtime → Prop}
    (h : m.Ends (rt.slotOf task).capabilities
      (fun a t => Q a (mapSlot task (TaskSlot.withTable t) rt))
      fun e t => E (err e) (mapSlot task (TaskSlot.withTable t) rt)) :
    (onTable task err m).Ends rt Q E := by
  rcases hm : m.run (rt.slotOf task).capabilities with ⟨e | a, t⟩
  · exact .of_error (by rw [run_onTable hk, hm]) (h.error hm)
  · exact .of_ok (run_onTable_ok hk hm) (h.ok hm)

/-- A grant is installed in a slot, or the rollback `undo` leaves `c`. -/
theorem install_ends (hk : KnownTask task) {objectType : UInt32} {object : ObjectReference}
    {rights : UInt64} {undo : Runtime → Runtime} {c : Runtime} {Q : UInt64 → Runtime → Prop}
    (hundo : ∀ t, undo (mapSlot task (TaskSlot.withTable t) rt) = c)
    (hQ : ∀ handle t, CapabilityTable.Installed [{ objectType, object, rights }]
      (rt.slotOf task).capabilities t → Q handle (mapSlot task (TaskSlot.withTable t) rt)) :
    (undoing undo (onTable task id
      (CapabilityTable.installObjectBuilding objectType object rights))).Ends rt Q
      fun _ rt' => rt' = c := by
  refine .undoing (onTable_ends hk ?_)
  rcases CapabilityTable.run_installObjectBuilding objectType object rights
    (rt.slotOf task).capabilities with hrun | ⟨i, handle, hfree, -, -, -, -, -, hrun⟩
  · exact .of_error hrun (hundo _)
  · exact .of_ok hrun (hQ _ _ (.cons hfree .nil))

/-- A table goes live, or the rollback leaves `c`. -/
theorem publish_ends (hk : KnownTask task) {err : RuntimeError → RuntimeError} {undo : Runtime → Runtime}
    {c : Runtime} {Q : Unit → Runtime → Prop}
    (hundo : undo (mapSlot task (TaskSlot.withTable (rt.slotOf task).capabilities) rt) = c)
    (hQ : Q () (mapSlot task
      (TaskSlot.withTable { (rt.slotOf task).capabilities with state := .live }) rt)) :
    (onTable task err CapabilityTable.publish).Ends rt Q fun _ rt' => undo rt' = c :=
  onTable_ends hk (.bind (.self (.ite (fun _ => .fail hundo) fun _ => .update hQ)))

/-! ## Cooperative profile -/

/-- The endpoint as `publish_initial` binds it. -/
def publishedEndpoint (rt : Runtime) : Endpoint where
  objectGeneration := endpointGeneration
  senderTask := senderTaskId
  senderGeneration := rt.task0.generation
  receiverTask := receiverTaskId
  receiverGeneration := rt.task1.generation
  occupied := false
  payload := 0

/-- Publication gives the sender and the receiver one grant each, or rolls back. -/
theorem publishInitial_ends (failBeforeStep : Option Nat) (sender receiver : TaskContext) :
    (publishInitial failBeforeStep).Ends (unpublished sender receiver)
      (fun _ rt' => (∀ step < 3, failBeforeStep ≠ some step) ∧ ∃ t0 t1 : CapabilityTable,
        rt' = { unpublished sender receiver with
          task0 := (unpublishedSlot senderTaskId .ready sender).withTable { t0 with state := .live }
          task1 :=
            (unpublishedSlot receiverTaskId .ready receiver).withTable { t1 with state := .live }
          endpoint := publishedEndpoint (unpublished sender receiver)
          queue := RunQueue.ofList [receiverTaskId, senderTaskId] } ∧
        CapabilityTable.Installed [Grant.send] (.building senderTaskId sender.generation) t0 ∧
        CapabilityTable.Installed [Grant.receive] (.building receiverTaskId receiver.generation) t1)
      fun _ rt' => rt' = cleared .cooperative := by
  have hrollback : ∀ {rt : Runtime} {installed : List (UInt64 × UInt64)},
      rt.profile = .cooperative → rt.task0.id = senderTaskId → rt.task1.id = receiverTaskId →
      rollbackPublication installed rt = cleared .cooperative :=
    fun hp h0 h1 => rollbackPublication_eq ⟨hp, h0, h1, fun hs => nomatch hp.symm.trans hs⟩ _
  unfold publishInitial initialGrants
  refine .bind (.ite (fun _ => .undoing (.fail (hrollback rfl rfl rfl))) fun hzero => .bind
    (install_ends (.inl rfl) (fun _ => hrollback rfl rfl rfl) fun handle0 t0 h0 => ?_))
  refine .ite (fun _ => .undoing (.fail (hrollback rfl rfl rfl))) fun hone => .bind
    (install_ends (.inr rfl) (fun _ => hrollback rfl rfl rfl) fun handle1 t1 h1 => .pure ?_)
  -- both tables go live, then the endpoint and the queue
  refine .undoing (.ite (fun _ => .fail (hrollback rfl rfl rfl)) fun htwo => ?_)
  refine .bind (publish_ends (.inl rfl) (hrollback rfl rfl rfl) ?_)
  refine .bind (publish_ends (.inr rfl) (hrollback rfl rfl rfl) (.bind (.update ?_)))
  refine .bind (.of_ok (run_onQueue_push rfl _) ?_)
  refine .bind (.of_ok (run_onQueue_ok (RunQueue.run_push_singleton (by decide))) ?_)
  refine .query (fun _ _ => ⟨?_, t0, t1, rfl, h0, h1⟩) fun _ _ => hrollback rfl rfl rfl
  intro step hlt
  interval_cases step
  · exact hzero
  · exact hone
  · exact htwo

/-! ## Supervised profile -/

/-- The supervised runtime after publication, with the supervisor's table `t`. -/
def publishedSupervised (supervisor workload : TaskContext) (t : CapabilityTable) : Runtime :=
  { unpublishedSupervised supervisor workload with
    task0 := (unpublishedSlot senderTaskId .ready supervisor).withTable t
    broker :=
      { ApprovalBroker.building supervisor.generation workload.generation with state := .empty }
    queue := RunQueue.ofList [senderTaskId] }

/-- The grants change the supervisor's table and nothing else, or are rolled back. -/
theorem installSupervisor_ends {grants : List (Nat × UInt32 × UInt64 × UInt64)} :
    ∀ {rt : Runtime} {installed : List UInt64}, Named .supervised rt →
      (installSupervisor failBeforeStep rollbackSupervisorPublication installed grants).Ends rt
        (fun _ rt' => (∀ step ∈ grants.map (·.1), failBeforeStep ≠ some step) ∧
          ∃ t, rt' = { rt with task0 := rt.task0.withTable t } ∧ CapabilityTable.Installed
            (grants.map fun (_, objectType, objectId, rights) => .fixed objectType objectId rights)
            rt.task0.capabilities t)
        fun _ rt' => rt' = cleared .supervised := by
  induction grants with
  | nil => exact fun h => .pure ⟨nofun, _, rfl, .nil⟩
  | cons grant rest ih =>
    intro rt installed h
    obtain ⟨step, objectType, objectId, rights⟩ := grant
    have htable : ∀ t, Named .supervised (mapSlot senderTaskId (TaskSlot.withTable t) rt) :=
      fun t => h.mapTable senderTaskId fun _ => t
    refine .ite (fun _ => .undoing (.fail (rollbackSupervisorPublication_eq h _))) fun hstep => .bind
      (install_ends (.inl rfl) (fun t => rollbackSupervisorPublication_eq (htable t) _)
        fun handle t ht => ?_)
    refine (ih (htable t)).mono ?_ fun _ _ he => he
    rintro _ _ ⟨hrest, t', rfl, ht'⟩
    exact ⟨List.forall_mem_cons.mpr ⟨hstep, hrest⟩, t', rfl, ht.append ht'⟩

theorem unpublishedSupervised_named : Named .supervised (unpublishedSupervised supervisor workload) :=
  ⟨rfl, rfl, rfl, fun _ => rfl⟩

/-- The supervisor gets its grants and is queued, or the publication is rolled back. -/
theorem publishSupervisor_ends (failBeforeStep : Option Nat) (supervisor workload : TaskContext) :
    (publishSupervisor failBeforeStep).Ends (unpublishedSupervised supervisor workload)
      (fun _ rt' => (∀ step < 5, failBeforeStep ≠ some step) ∧
        ∃ t, rt' = publishedSupervised supervisor workload t ∧ t.grants.Perm Grant.supervisor)
      fun _ rt' => rt' = cleared .supervised := by
  refine .bind ((installSupervisor_ends unpublishedSupervised_named).mono ?_ fun _ _ he => he)
  rintro installed _ ⟨hgrants, t, rfl, hinstalled⟩
  have hrollback : ∀ {rt : Runtime}, rt.profile = .supervised → rt.task0.id = senderTaskId →
      rt.task1.id = receiverTaskId → rt.endpoint = Endpoint.empty →
      rollbackSupervisorPublication installed rt = cleared .supervised :=
    fun hp h0 h1 he => rollbackSupervisorPublication_eq ⟨hp, h0, h1, fun _ => he⟩ installed
  refine .undoing (.ite (fun _ => .fail (hrollback rfl rfl rfl rfl)) fun hthree => ?_)
  refine .bind (publish_ends (.inl rfl) (hrollback rfl rfl rfl rfl) (.bind (.update ?_)))
  refine .ite (fun _ => .fail (hrollback rfl rfl rfl rfl)) fun hfour => ?_
  refine .bind (.of_ok (run_onQueue_push rfl _) (.query (fun _ _ => ⟨?_, _, rfl, ?_⟩) fun _ _ =>
    hrollback rfl rfl rfl rfl))
  · intro step hlt
    interval_cases step
    · exact hgrants 0 (by decide)
    · exact hgrants 1 (by decide)
    · exact hgrants 2 (by decide)
    · exact hthree
    · exact hfour
  · exact hinstalled.grants_perm_published

end Runtime

/-! ## Journaled profile -/

namespace JournaledRuntime

variable {jr : JournaledRuntime}

theorem rollbackPublication_eq (h : Runtime.Named .supervised jr.runtime)
    (baseHandles : List UInt64) (journalHandle : UInt64) :
    rollbackPublication baseHandles journalHandle jr = cleared := by
  have hruntime : Runtime.rollbackSupervisorPublication baseHandles
      (if journalHandle ≠ 0 then
        mapSlot senderTaskId
          (fun s =>
            { s with capabilities := CapabilityTable.rollbackInstall journalHandle s.capabilities })
          jr.runtime
      else jr.runtime) = Runtime.cleared .supervised := by
    split
    · exact rollbackSupervisorPublication_eq (h.mapTable _ _) _
    · exact rollbackSupervisorPublication_eq h _
  unfold rollbackPublication cleared
  rw [hruntime]

theorem installJournal_ends (h : Runtime.Named .supervised jr.runtime) (baseHandles : List UInt64) :
    (installJournal baseHandles).Ends jr
      (fun _ jr' => ∃ t, jr' = { jr with
          runtime := { jr.runtime with task0 := jr.runtime.task0.withTable t } } ∧
        CapabilityTable.Installed [Grant.journal] jr.runtime.task0.capabilities t)
      fun _ jr' => jr' = cleared := by
  have htable : ∀ t, Named .supervised (mapSlot senderTaskId (TaskSlot.withTable t) jr.runtime) :=
    fun t => h.mapTable senderTaskId fun _ => t
  refine .bind (.undoing (.onPart (onTable_ends (.inl rfl) ?_)))
  rcases CapabilityTable.run_installObjectBuilding _ _ _ jr.runtime.task0.capabilities
    with hrun | ⟨i, handle, hfree, -, -, -, -, -, hrun⟩
  · exact .of_error hrun (rollbackPublication_eq (htable _) _ _)
  · refine .of_ok hrun (.ite (fun _ => .pure ⟨_, rfl, .cons hfree .nil⟩) fun _ =>
      .bind (.update (.fail (rollbackPublication_eq ?_ _ _))))
    exact (htable _).mapTable senderTaskId (CapabilityTable.rollbackInstall handle)

/-- The supervisor can also read the journal, which is live, or the publication is rolled back. -/
theorem publishSupervisor_ends (failBeforeStep : Option Nat) (supervisor workload : TaskContext) :
    (publishSupervisor failBeforeStep).Ends
      ⟨unpublishedSupervised supervisor workload, EffectJournal.building⟩
      (fun _ jr' => (∀ step < 7, failBeforeStep ≠ some step) ∧ jr'.validate = .ok () ∧
        ∃ t, jr' = ⟨publishedSupervised supervisor workload t,
            { EffectJournal.building with state := .live }⟩ ∧
          t.grants.Perm (Grant.supervisor ++ [Grant.journal]))
      fun _ jr' => jr' = cleared := by
  refine .bind (.undoing (.onPart ((installSupervisor_ends unpublishedSupervised_named).mono ?_ ?_)))
  · rintro baseHandles _ ⟨hgrants, t, rfl, hbase⟩
    have hrollback : ∀ {jr : JournaledRuntime} {journalHandle : UInt64},
        jr.runtime.profile = .supervised → jr.runtime.task0.id = senderTaskId →
        jr.runtime.task1.id = receiverTaskId → jr.runtime.endpoint = Endpoint.empty →
        rollbackPublication baseHandles journalHandle jr = cleared :=
      fun hp h0 h1 he => rollbackPublication_eq ⟨hp, h0, h1, fun _ => he⟩ baseHandles _
    refine .ite (fun _ => .undoing (.fail (hrollback rfl rfl rfl rfl))) fun hthree => ?_
    refine .bind ((installJournal_ends ⟨rfl, rfl, rfl, fun _ => rfl⟩ baseHandles).mono ?_
      fun _ _ he => he)
    rintro journalHandle _ ⟨t', rfl, hread⟩
    refine .undoing (.ite (fun _ => .fail (hrollback rfl rfl rfl rfl)) fun hfour => ?_)
    refine .bind (.of_ok (run_onJournal _ (show EffectJournal.publish.run EffectJournal.building =
      (.ok (), { EffectJournal.building with state := .live }) from rfl)) ?_)
    refine .ite (fun _ => .fail (hrollback rfl rfl rfl rfl)) fun hfive => ?_
    refine .bind (.onPart (onTable_ends (.inl rfl) (.bind (.self (.ite
      (fun _ => .fail (hrollback rfl rfl rfl rfl)) fun _ => .update (.bind (.update ?_)))))))
    refine .ite (fun _ => .fail (hrollback rfl rfl rfl rfl)) fun hsix => ?_
    refine .bind (.attempt (.bind (.of_ok (run_onRuntime _ (run_onQueue_push rfl _)) (.query
      (fun _ hvalid => .pure ⟨?_, hvalid, _, rfl, (hbase.append hread).grants_perm_published⟩)
      fun _ _ => .fail (hrollback rfl rfl rfl rfl)))))
    intro step hlt
    interval_cases step
    · exact hgrants 0 (by decide)
    · exact hgrants 1 (by decide)
    · exact hgrants 2 (by decide)
    · exact hthree
    · exact hfour
    · exact hfive
    · exact hsix
  · rintro _ _ rfl
    rfl

end JournaledRuntime

/-! ## All profiles -/

namespace KernelRuntime

/-- A publication that ends well was not made to fail; one that fails leaves the final value. -/
theorem publication_ends {kind : KernelRuntimeKind} {failBeforeStep : Option Nat}
    {first second : TaskContext} {result : Except RuntimeError Unit} {k : KernelRuntime}
    (h : publication kind failBeforeStep first second = (result, k)) :
    (∀ u, result = .ok u → ∀ step < publicationSteps kind, failBeforeStep ≠ some step) ∧
      ∀ e, result = .error e → k = final kind := by
  have hends : ∀ {σ : Type} (lift : σ → KernelRuntime) {m : Method σ RuntimeError Unit} {s c : σ}
      {P : Prop} {R : σ → Prop}, m.Ends s (fun _ s' => P ∧ R s') (fun _ s' => s' = c) →
      ((m.run s).1, lift (m.run s).2) = (result, k) →
      (∀ u, result = .ok u → P) ∧ ∀ e, result = .error e → k = lift c := by
    intro σ lift m s c P R hends heq
    obtain ⟨hresult, rfl⟩ := Prod.mk.inj heq
    refine ⟨?_, ?_⟩
    · rintro u rfl
      exact (hends.ok (Prod.ext hresult rfl)).1
    · rintro e rfl
      exact congrArg lift (hends.error (Prod.ext hresult rfl))
  cases kind with
  | cooperative => exact hends base (publishInitial_ends failBeforeStep first second) h
  | supervised => exact hends base (publishSupervisor_ends failBeforeStep first second) h
  | journaled =>
    exact hends journaled (JournaledRuntime.publishSupervisor_ends failBeforeStep first second) h

end KernelRuntime

end MakopaVerified.TaskRuntime
