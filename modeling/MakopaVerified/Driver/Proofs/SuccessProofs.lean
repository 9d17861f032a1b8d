import MakopaVerified.Driver.Proofs.PairingProofs
import MakopaVerified.Driver.Success
import MakopaVerified.TaskRuntime.Proofs.ShutdownProofs

/-!
# The driver makes runs of the kernel, and they end well

Every trap that the driver takes is one turn of the calls that the kernel's runs are made of, so
that a run of the driver is a run of the kernel, and what holds of all those holds of it. When the
last task is gone the runtime has its final value; `scheduler_success` finds nothing left and a
journal that is the reference or not.
-/

namespace MakopaVerified.Driver

open Foundation AddressSpace TaskRuntime Method TaskRuntime.Runtime TaskOwners

variable {σ ε : Type} {B : AddressSpaceBackend σ ε} {kind : KernelRuntimeKind}
  {k k' : KernelRuntime} {d d' : DriverState σ} {task : UInt64} {frame : TrapFrame}

/-! ## The calls of one trap -/

theorem orFail_ends {α : Type} {v : Option α} {failure : KernelFailure}
    {Q : α → DriverState σ → Prop} (h : ∀ a, v = some a → Q a d) :
    (orFail v failure : Method (DriverState σ) KernelFailure α).Ends d Q fun _ _ => True := by
  cases v with
  | none => exact .fail trivial
  | some a => exact .pure (h a rfl)

/-- `resume_scheduled_task` leaves the runtime alone. -/
theorem resumeScheduledTask_ends (task : UInt64) (d : DriverState σ) :
    (resumeScheduledTask task).Ends d (fun _ d' => d'.runtime = d.runtime) fun _ _ => True := by
  refine .bind (.self (.bind (orFail_ends fun runtime _ => ?_)))
  refine .ite (fun _ => .fail trivial) fun _ => ?_
  refine .bind (orFail_ends fun generation _ => .bind (orFail_ends fun owner _ => ?_))
  refine .bind (orFail_ends fun root _ => .ite (fun _ => .fail trivial) fun _ => ?_)
  refine .bind (orFail_ends fun context _ => .ite (fun _ => .fail trivial) fun _ => ?_)
  rcases AddressSpaceOwner.activate.run owner with ⟨_ | _, owner'⟩
  · exact .fail trivial
  · exact .update rfl

/-- The driver after a teardown: the runtime has gone through both phases, and when no task is left
no task is in user mode. -/
def TornDown (k : KernelRuntime) (task : UInt64) (result : DriverEnd) (d : DriverState σ) : Prop :=
  ∃ k₁ next k₂, (KernelRuntime.beginTeardown task).run k = (.ok (), k₁) ∧
    (KernelRuntime.completeTeardown task).run k₁ = (.ok next, k₂) ∧ d.runtime = some k₂ ∧
    (result = .finished → d.currentTask = 0 ∧ d.activeContext = ActiveContext.new)

theorem teardownExitedTask_ends (B : AddressSpaceBackend σ ε) (task : UInt64)
    (hk : d.runtime = some k) :
    (teardownExitedTask B task).Ends d (TornDown k task) fun _ _ => True := by
  refine .bind (.self (.bind (orFail_ends fun runtime hruntime => ?_)))
  obtain rfl : k = runtime := Option.some.inj (hk.symm.trans hruntime)
  rcases hbegin : (KernelRuntime.beginTeardown task).run k with ⟨_ | _, k₁⟩
  · exact .fail trivial
  refine .ite (fun _ => .fail trivial) fun _ => .bind (.update ?_)
  refine .bind (.self (.bind (orFail_ends fun owner _ => .bind (.update ?_))))
  refine .ite (fun _ => .fail trivial) fun _ => ?_
  rcases (teardownChecked B owner).run (d.withRuntime k₁).left.backend with
    ⟨(_ | _) | dead, backend⟩
  · exact .fail trivial
  · exact .fail trivial
  refine .bind (.update (.ite (fun _ => .fail trivial) fun _ => ?_))
  refine .bind (orFail_ends fun runtime hruntime => ?_)
  obtain rfl : k₁ = runtime := Option.some.inj hruntime
  rcases hcomplete : (KernelRuntime.completeTeardown task).run k₁ with ⟨_ | next, k₂⟩
  · exact .fail trivial
  refine .bind (.update ?_)
  cases next with
  | none => exact .pure ⟨k₁, none, k₂, hbegin, hcomplete, rfl, fun _ => ⟨rfl, rfl⟩⟩
  | some next =>
    refine .bind ((resumeScheduledTask_ends next _).mono (fun _ d' hd' => .pure ?_) fun _ _ h => h)
    exact ⟨k₁, some next, k₂, hbegin, hcomplete, hd', fun h => by cases h⟩

/-- The driver after a trap: the runtime has gone through one turn. -/
def Turned (kind : KernelRuntimeKind) (k : KernelRuntime) (frame : TrapFrame) (result : DriverEnd)
    (d : DriverState σ) : Prop :=
  ∃ events k', Turn frame events ∧ Steps (kernelSystem kind) k events k' ∧ d.runtime = some k' ∧
    (result = .finished → d.currentTask = 0 ∧ d.activeContext = ActiveContext.new)

/-- What follows a trap that the runtime has answered. -/
theorem followOutcome_ends (B : AddressSpaceBackend σ ε) {outcome : TrapOutcome} {before : Runtime}
    (hs : KernelStep k (.trap task frame outcome before k'.runtime) k') (hd : d.runtime = some k') :
    (followOutcome B outcome).Ends d (Turned kind k frame) fun _ _ => True := by
  have hresumes : ∀ {next : UInt64}, (∀ t, outcome ≠ .exit t) →
      (update DriverState.left >>= fun _ => resumeScheduledTask next >>= fun _ =>
        pure DriverEnd.user).Ends d (Turned kind k frame) fun _ _ => True := by
    intro next hstays
    refine .bind (.update (.bind ((resumeScheduledTask_ends next _).mono ?_ fun _ _ h => h)))
    exact fun _ d' hd' => .pure
      ⟨_, k', .goesOn hstays, .cons hs .nil, hd'.trans hd, fun h => by cases h⟩
  cases outcome with
  | resume next => exact hresumes fun t h => by cases h
  | «switch» next => exact hresumes fun t h => by cases h
  | «exit» exited =>
    refine (teardownExitedTask_ends B exited hd).mono ?_ fun _ _ h => h
    rintro result d' ⟨k₁, next, k₂, hbegin, hcomplete, hruntime, hleft⟩
    exact ⟨_, k₂, .exits,
      .cons hs (.cons (.beginTeardown hbegin) (.cons (.completeTeardown hcomplete) .nil)),
      hruntime, hleft⟩

/-- A trap of the task in user mode is one turn of the kernel. -/
theorem InUser.turns (B : AddressSpaceBackend σ ε) (h : InUser kind d k) (frame : TrapFrame) :
    (takeTrap B frame).Ends d (Turned kind k frame) fun _ _ => True := by
  have hk := h.running.known
  refine .bind (.update (.bind (.self (.ite (fun _ => .fail trivial) fun _ => ?_))))
  refine .bind (orFail_ends fun runtime hruntime => ?_)
  refine .ite (fun _ => .fail trivial) fun hrunning => ?_
  obtain rfl : k = runtime := Option.some.inj (h.published.symm.trans hruntime)
  refine .bind (orFail_ends fun owner howner => .ite (fun _ => .fail trivial) fun _ => ?_)
  refine .bind (orFail_ends fun root hroot => .ite (fun _ => .fail trivial) fun _ => ?_)
  rcases AddressSpaceOwner.recover.run owner with ⟨_ | _, recovered⟩
  · exact .fail trivial
  rcases hcapture : (KernelRuntime.captureTrap d.trapped.currentTask frame root
    owner.generation).run k with ⟨_ | _, k₁⟩
  · exact .fail trivial
  refine .bind (orFail_ends fun context _ => .ite (fun _ => .fail trivial) fun _ => ?_)
  rcases hhandle : (KernelRuntime.handleTrap d.trapped.currentTask).run k₁ with ⟨_ | outcome, k'⟩
  · exact .fail trivial
  -- the owner has the generation of the slot and a root that is not zero
  obtain ⟨hgeneration, hslot⟩ := h.paired.agrees _ owner hk howner
  have hown : k.generation d.currentTask = .ok owner.generation := by
    rw [KernelRuntime.generation, Runtime.generation, slot_of_known hk, hgeneration]
    rfl
  have hne : root ≠ 0 := by
    obtain rfl : root = _ := Option.some.inj (hroot.symm.trans hslot)
    exact (input_of_alive h.inv hk (running_state h.running).2).2.2
  exact .bind (.update (followOutcome_ends B
    (.trap (not_not.mp hrunning) hown hne hcapture hhandle) rfl))

/-! ## Runs -/

theorem withdrawPair_fails {α : Type} {Q : α → DriverState σ → Prop} (pair : AddressSpacePair)
    (d : DriverState σ) : (withdrawPair B kind pair : Method _ _ α).Ends d Q fun _ _ => True := by
  refine .bind ⟨fun _ => .bind ⟨fun _ => ?_, fun _ => trivial⟩, fun _ => trivial⟩
  exact .ite (fun _ => .fail trivial) fun _ => .fail trivial

/-- The runtime that a scheduler starts with has been published and dispatched. -/
theorem runScheduler_boots (B : AddressSpaceBackend σ ε) (kind : KernelRuntimeKind)
    (d₀ : DriverState σ) :
    (runScheduler B kind).Ends d₀ (fun _ d => ∃ k, d.runtime = some k ∧ Booted kind k)
      fun _ _ => True := by
  refine .bind (.self (.ite (fun _ => .fail trivial) fun _ => ?_))
  refine .ite (fun _ => .fail trivial) fun _ => ?_
  refine .bind (.onPart ⟨fun _ => ?_, fun _ => trivial⟩)
  refine .bind (orFail_ends fun firstRoot _ => .bind (orFail_ends fun secondRoot _ => ?_))
  rcases contextsValid kind firstRoot secondRoot with _ | _
  · exact withdrawPair_fails _ _
  rcases hnew : initialRuntime kind firstRoot secondRoot with _ | k₀
  · exact withdrawPair_fails _ _
  dsimp only
  rcases hfirst : firstDispatch kind k₀ with _ | ⟨next, k⟩
  · exact .fail trivial
  refine .bind (.update ((resumeScheduledTask_ends next _).mono ?_ fun _ _ h => h))
  intro _ d' hd'
  refine ⟨k, hd', k₀, some next, KernelRuntime.publish_published hnew, ?_⟩
  unfold firstDispatch at hfirst
  split at hfirst
  · split at hfirst
    · cases hfirst
      assumption
    · cases hfirst
  · cases hfirst

theorem inUser_refines {frames : List TrapFrame} (h : Run (driverSystem B kind) frames d) :
    ∃ turns k, List.Forall₂ Turn frames turns ∧ Run (kernelSystem kind) turns.flatten k ∧
      InUser kind d k := by
  refine h.refines (kernelSystem kind) (InUser kind) Turn ?_ ?_
  · rintro d ⟨d₀, hstart⟩
    obtain ⟨k, hruntime, hbooted⟩ := (runScheduler_boots B kind d₀).ok hstart
    obtain ⟨k', hin⟩ := (runScheduler_ends B kind d₀).ok hstart
    obtain rfl : k = k' := Option.some.inj (hruntime.symm.trans hin.published)
    exact ⟨k, hbooted, hin⟩
  · rintro d k frame d' hin ⟨hframe, htrap⟩
    obtain ⟨events, k', hturn, hsteps, hruntime, -⟩ := (hin.turns B frame).ok htrap
    obtain ⟨k'', ⟨-, hin'⟩ | ⟨hbad, -⟩⟩ := (hin.takeTrap_ends B hframe).ok htrap
    · obtain rfl : k' = k'' := Option.some.inj (hruntime.symm.trans hin'.published)
      exact ⟨events, k', hturn, hsteps, hin'⟩
    · cases hbad

/-- Every run of the driver is a run of the kernel, one turn for each trap; and so is the trap after
which no task is left. -/
theorem driver_runs_kernel (B : AddressSpaceBackend σ ε) (kind : KernelRuntimeKind) :
    ∀ frames d, Run (driverSystem B kind) frames d →
      ∃ turns k, List.Forall₂ Turn frames turns ∧ Run (kernelSystem kind) turns.flatten k ∧
        d.runtime = some k ∧
        ∀ frame result d', (takeTrap B frame).run d = (.ok result, d') →
          ∃ turn k', Turn frame turn ∧ Run (kernelSystem kind) (turns.flatten ++ turn) k' ∧
            d'.runtime = some k' := by
  intro frames d hrun
  obtain ⟨turns, k, hturns, hkernel, hin⟩ := inUser_refines hrun
  refine ⟨turns, k, hturns, hkernel, hin.published, fun frame result d' htrap => ?_⟩
  obtain ⟨turn, k', hturn, hsteps, hruntime, -⟩ := (hin.turns B frame).ok htrap
  exact ⟨turn, k', hturn, hkernel.steps hsteps, hruntime⟩

/-- The first task exits, and is dead after the teardown of its turn. -/
theorem exit_is_turn :
    ∃ turn k, Turn (userFrame 3) turn ∧ Run (kernelSystem .cooperative) turn k ∧
      k.state receiverTaskId = .ok .dead := by
  obtain ⟨turns, k, hturns, -, -, htraps⟩ :=
    driver_runs_kernel countingBackend .cooperative _ _ startedDriver_run
  cases hturns
  obtain ⟨turn, k', hturn, hrun, hkernel⟩ :=
    htraps (userFrame 3) .user _ (run_eq_of_result (by decide +kernel))
  have hdead : ((takeTrap countingBackend (userFrame 3)).run startedDriver).2.runtime.map
      (·.state receiverTaskId) = some (.ok .dead) := by decide +kernel
  rw [hkernel] at hdead
  exact ⟨turn, k', hturn, hrun, Option.some.inj hdead⟩

/-! ## The end -/

theorem Turn.not_reclaims {events : List KernelEvent} (h : Turn frame events) :
    KernelEvent.finishReclamation ∉ events := by
  cases h <;> simp

theorem not_reclaims_flatten {frames : List TrapFrame} {turns : List (List KernelEvent)}
    (h : List.Forall₂ Turn frames turns) : KernelEvent.finishReclamation ∉ turns.flatten := by
  induction h with
  | nil => exact List.not_mem_nil
  | cons hturn _ ih =>
    rw [List.flatten_cons, List.mem_append, not_or]
    exact ⟨hturn.not_reclaims, ih⟩

theorem effectRecordMismatch_eq_false {record : EffectRecord} {recordSequence : UInt64}
    {expected : ExpectedRecord} :
    effectRecordMismatch record recordSequence expected = false ↔
      record = expected.record recordSequence := by
  unfold effectRecordMismatch ExpectedRecord.record
  rw [decide_eq_false_iff_not]
  cases record
  simp only [EffectRecord.mk.injEq]
  tauto

/-- The comparison with the table succeeds when the committed records begin with the reference. -/
theorem referenceInvalidFrom_eq_false {j : EffectJournal} (hok : j.JournalOk) {n : Nat}
    {l : List ExpectedRecord} (hn : n + l.length < 2 ^ 64) :
    referenceInvalidFrom j (UInt64.ofNat (n + 1)) l = false ↔
      referenceFrom n l <+: j.committed.drop n := by
  induction l generalizing n with
  | nil => simp [referenceInvalidFrom, referenceFrom]
  | cons expected rest ih =>
    rw [List.length_cons] at hn
    have hnat : (UInt64.ofNat (n + 1)).toNat = n + 1 :=
      UInt64.toNat_ofNat_of_lt' (show n + 1 < 2 ^ 64 by omega)
    rw [referenceInvalidFrom, referenceFrom]
    cases hget : j.committed[n]? with
    | none =>
      have hdrop : j.committed.drop n = [] :=
        List.drop_eq_nil_of_le (List.getElem?_eq_none_iff.mp hget)
      cases hr : j.record (UInt64.ofNat (n + 1)) with
      | error e => simp [hdrop]
      | ok record =>
        have hsome := (hok.record_eq_ok.mp hr).2
        rw [hnat, Nat.add_sub_cancel, hget] at hsome
        cases hsome
    | some record =>
      have hr : j.record (UInt64.ofNat (n + 1)) = .ok record :=
        hok.record_eq_ok.mpr ⟨by omega, by rw [hnat, Nat.add_sub_cancel, hget]⟩
      obtain ⟨hlt, rfl⟩ := List.getElem?_eq_some_iff.mp hget
      rw [hr, List.drop_eq_getElem_cons hlt, List.cons_prefix_cons, ← ih (by omega),
        UInt64.ofNat_add (n + 1) 1, eq_comm (a := expected.record _),
        ← effectRecordMismatch_eq_false]
      exact Bool.or_eq_false_iff

/-- No global and no part of the runtime is left. -/
theorem commonInvalid_eq_false {profile : RuntimeProfile} (hv : k.validate = .ok ())
    (hrt : k.runtime = Runtime.cleared profile) (howners : d.owners = TaskOwners.new)
    (hcurrent : d.currentTask = 0) (hactive : d.activeContext = ActiveContext.new) :
    commonInvalid d k = false := by
  unfold commonInvalid KernelRuntime.state KernelRuntime.generation tableDead
  rw [hv, hrt, howners, hcurrent, hactive]
  cases profile <;> decide

theorem kindOf_eq (h : KernelInv kind k) : kindOf k = kind := by
  cases h with
  | cooperative inv => exact if_pos inv.profile
  | supervised inv => exact if_neg (by rw [inv.profile]; decide)
  | journaled inv => rfl

/-- The checks of the journal pass for the reference and for no other journal. -/
theorem profileInvalid_journaled {jr : JournaledRuntime} (hok : jr.journal.JournalOk)
    (hrt : jr.runtime = Runtime.cleared .supervised) (hsealed : jr.journal.state = .sealed) :
    profileInvalid (.journaled jr) = false ↔
      jr.journal.committed = referenceFrom 0 expectedRecords := by
  have hsupervised : supervisedInvalid (Runtime.cleared .supervised) = false := by decide
  have hlength := EffectJournal.length_committed hok.count_le
  have hreference : journalReferenceInvalid jr = false ↔
      referenceFrom 0 expectedRecords <+: jr.journal.committed :=
    referenceInvalidFrom_eq_false (n := 0) hok (by decide)
  unfold profileInvalid
  rw [decide_eq_false_iff_not, hrt, hsupervised, hsealed, hok.generation,
    hok.sealed_reserved hsealed, hok.next]
  simp only [ne_eq, not_true_eq_false, false_or, not_or, not_not, Bool.not_eq_true, hreference,
    Bool.false_eq_true]
  constructor
  · rintro ⟨hcount, -, hbegins⟩
    exact (hbegins.eq_of_length (by rw [hlength, hcount]; rfl)).symm
  · intro heq
    have hcount : jr.journal.committedRecordCount = 11 := by
      rw [← hlength, heq]
      rfl
    rw [hcount, heq]
    exact ⟨rfl, rfl, List.prefix_rfl⟩

/-- `scheduler_success` on what the last teardown leaves. -/
theorem run_schedulerSuccess {history : List KernelEvent} (hd : d.runtime = some k)
    (hrun : Run (kernelSystem kind) history k)
    (hno : KernelEvent.finishReclamation ∉ history) (hdead : k.runtime.AllDead)
    (howners : d.owners = TaskOwners.new) (hcurrent : d.currentTask = 0)
    (hactive : d.activeContext = ActiveContext.new) :
    (kind ≠ .journaled ∨ AsReference k →
      schedulerSuccess.run d = (.ok kind, { d with runtime := none })) ∧
    (kind = .journaled → ¬ AsReference k →
      schedulerSuccess.run d = (.error .schedulerResidualState, d)) := by
  have hinv := KernelInv.run hrun
  have hkind := kindOf_eq hinv
  have hends : ∀ {profile : RuntimeProfile}, k.validate = .ok () →
      k.runtime = Runtime.cleared profile → reclaimed k = true →
      schedulerSuccess.run d = if profileInvalid k = false then
        (.ok kind, { d with runtime := none }) else (.error .schedulerResidualState, d) := by
    intro profile hv hrt hreclaimed
    unfold schedulerSuccess
    rw [run_self_bind, hd]
    simp only [commonInvalid_eq_false hv hrt howners hcurrent hactive, hreclaimed, hkind]
    cases profileInvalid k <;> rfl
  have hbase : kind ≠ .journaled → k = KernelRuntime.final kind := fun hne =>
    (KernelInv.final_run hrun hdead).2 (.inl hne)
  cases hinv with
  | cooperative inv | supervised inv =>
    obtain rfl := KernelRuntime.base.inj (hbase (by decide))
    exact ⟨fun _ => (hends inv.validate rfl rfl).trans (if_pos (by decide)), fun h => by cases h⟩
  | @journaled jr inv =>
    obtain ⟨jr', hjr, -, hiff⟩ := JInv.dead_iff_reclaimed hrun
    obtain rfl := KernelRuntime.journaled.inj hjr
    have halive : jr.journal.state ≠ .dead := fun hd => hno (hiff.mp hd)
    have hok := inv.live_or_sealed halive
    have hsealed : jr.journal.state = .sealed := hok.state.resolve_left fun hlive =>
      inv.live_iff.mp hlive (.inl (.inr (inv.sup.valid.slot0.table_dead hdead.1)))
    have hrt : jr.runtime = Runtime.cleared .supervised :=
      inv.sup.eq_cleared (KernelInv.tidy_run hrun) hdead
    have hreclaimed : reclaimed (.journaled jr) = true := by
      rw [reclaimed, inv.reclaims hdead halive]
      exact decide_eq_true ⟨rfl, (inv.reclaimed hdead.1 hdead.2).validate⟩
    have hreference := profileInvalid_journaled hok hrt hsealed
    rw [hends inv.validate hrt hreclaimed]
    exact ⟨fun h => if_pos (hreference.mpr (h.resolve_left fun hne => hne rfl)),
      fun _ h => if_neg (mt hreference.mp h)⟩

/-- When no task is left, `scheduler_success` finds nothing that remains, in every profile, for
every backend and whatever the tasks have done. The schedulers without a journal succeed, and the
one with a journal succeeds exactly when the committed records are those of the reference. -/
theorem scheduler_leaves_nothing (B : AddressSpaceBackend σ ε) (kind : KernelRuntimeKind) :
    ∀ frames d, Run (driverSystem B kind) frames d → ∀ frame d', FrameAccepted d frame →
      (takeTrap B frame).run d = (.ok .finished, d') →
      ∃ k, d'.runtime = some k ∧
        (kind ≠ .journaled ∨ AsReference k →
          schedulerSuccess.run d' = (.ok kind, { d' with runtime := none })) ∧
        (kind = .journaled → ¬ AsReference k →
          schedulerSuccess.run d' = (.error .schedulerResidualState, d')) := by
  intro frames d hrun frame d' hframe htrap
  obtain ⟨turns, k, hturns, hkernel, hin⟩ := inUser_refines hrun
  obtain ⟨turn, k', hturn, hsteps, hruntime, hleft⟩ := (hin.turns B frame).ok htrap
  obtain ⟨hcurrent, hactive⟩ := hleft rfl
  obtain ⟨k'', ⟨hbad, -⟩ | ⟨-, hpublished, hdead, howners⟩⟩ := (hin.takeTrap_ends B hframe).ok htrap
  · cases hbad
  obtain rfl : k' = k'' := Option.some.inj (hruntime.symm.trans hpublished)
  have hno : KernelEvent.finishReclamation ∉ turns.flatten ++ turn := by
    rw [List.mem_append, not_or]
    exact ⟨not_reclaims_flatten hturns, hturn.not_reclaims⟩
  exact ⟨k', hruntime,
    run_schedulerSuccess hruntime (hkernel.steps hsteps) hno hdead howners hcurrent hactive⟩

/-- Both tasks exit. -/
theorem exits_leave_nothing :
    ∃ d : DriverState UInt64,
      schedulerSuccess.run d = (.ok .cooperative, { d with runtime := none }) := by
  have hrun := startedDriver_run.step ⟨frameAccepted_of_any (by decide +kernel),
    run_eq_of_result (m := takeTrap countingBackend (userFrame 3)) (r := .ok .user)
      (by decide +kernel)⟩
  obtain ⟨k, -, hsuccess, -⟩ := scheduler_leaves_nothing countingBackend .cooperative _ _ hrun
    (userFrame 3) _ (frameAccepted_of_any (by decide +kernel))
    (run_eq_of_result (by decide +kernel))
  exact ⟨_, hsuccess (.inl (by decide))⟩

end MakopaVerified.Driver
