import MakopaVerified.Foundation.Relational
import MakopaVerified.TaskRuntime.Contexts
import MakopaVerified.TaskRuntime.Proofs.BootProofs

/-!
# Contexts that the constructors accept

Publication never looks at the saved registers of a task, except for the final check, which asks that
the root is not zero. So a publication that succeeds for one pair of contexts succeeds for every other
pair with the same tasks and generations and with roots.
-/

namespace MakopaVerified.TaskRuntime

open Foundation Method

variable {c0 c1 : TaskContext} {task : UInt64} {α ε : Type}

/-- The runtime with other saved registers. -/
def Runtime.withContexts (c0 c1 : TaskContext) (rt : Runtime) : Runtime :=
  { rt with task0 := rt.task0.withContext c0, task1 := rt.task1.withContext c1 }

/-- The contexts belong to the two tasks. -/
def Runtime.Suits (c0 c1 : TaskContext) (rt : Runtime) : Prop :=
  ContextOk rt.task0 c0 ∧ ContextOk rt.task1 c1

theorem Valid.withContexts {rt : Runtime} (h : Valid rt) (hsuits : rt.Suits c0 c1) :
    Valid (rt.withContexts c0 c1) :=
  { h.toSlotsOk.withContexts hsuits.1 hsuits.2 with
    cooperative := fun hp => { h.cooperative hp with }
    supervised := fun hp => { h.supervised hp with } }

namespace Runtime

/-- The method does the same with other saved registers. -/
abbrev Carried (c0 c1 : TaskContext) (m : Method Runtime ε α) : Prop :=
  Method.Carries (Suits c0 c1) (withContexts c0 c1) m

theorem carried_onTable (hk : KnownTask task) (err : ε → RuntimeError)
    (m : Method CapabilityTable ε α) : Carried c0 c1 (onTable task err m) := by
  rcases hk with rfl | rfl <;> exact .onPart (fun _ => rfl) (fun _ _ => rfl) fun _ _ h => h

theorem carried_onQueue (m : Method RunQueue RuntimeError α) : Carried c0 c1 (onQueue m) :=
  .onPart (fun _ => rfl) (fun _ _ => rfl) fun _ _ h => h

theorem carried_validate : Carried c0 c1 (query validate) :=
  .query fun _ _ hsuits h => validate_eq_ok.mpr ((validate_eq_ok.mp h).withContexts hsuits)

/-! ## The first dispatch -/

/-- The runtime that a dispatch of `head` leaves. -/
def dispatched (head : UInt64) (rt : Runtime) : Runtime :=
  mapSlot head (TaskSlot.withState .running) { rt with queue := rt.queue.pop.2 }

/-- The next dispatch is that of `head`. -/
def Dispatches (rt : Runtime) (head : UInt64) : Prop :=
  rt.task0.state ≠ .running ∧ rt.task1.state ≠ .running ∧ rt.queue.pop.1 = some head ∧
    (rt.slotOf head).state = .ready ∧ (rt.dispatched head).validate = .ok ()

instance (rt : Runtime) (head : UInt64) : Decidable (rt.Dispatches head) :=
  inferInstanceAs (Decidable (_ ∧ _ ∧ _ ∧ _ ∧ _))

theorem contextOk_running {s : TaskSlot} {c : TaskContext} (h : ContextOk s c)
    (hready : s.state = .ready) : ContextOk (s.withState .running) c := by
  refine ⟨nofun, fun _ => h.2 ?_⟩
  rw [hready]
  decide

/-- A dispatch reads the states of the tasks and the queue, and so does its check but for the roots. -/
theorem dispatchNext_withContexts {rt : Runtime} {head : UInt64} (hknown : KnownTask head)
    (h : rt.Dispatches head) (hsuits : rt.Suits c0 c1) :
    dispatchNext.run (rt.withContexts c0 c1) =
      (.ok (some head), (rt.dispatched head).withContexts c0 c1) := by
  obtain ⟨h0, h1, hhead, hready, hvalidate⟩ := h
  have hsuits' : (rt.dispatched head).Suits c0 c1 := by
    rcases hknown with rfl | rfl
    · exact ⟨contextOk_running hsuits.1 hready, hsuits.2⟩
    · exact ⟨hsuits.1, contextOk_running hsuits.2 hready⟩
  have hcommute : mapSlot head (TaskSlot.withState .running)
      { rt.withContexts c0 c1 with queue := rt.queue.pop.2 } =
        (rt.dispatched head).withContexts c0 c1 := by
    rcases hknown with rfl | rfl <;> rfl
  have hready' : ((rt.withContexts c0 c1).slotOf head).state = .ready := by
    rcases hknown with rfl | rfl <;> exact hready
  have hvalid := (validate_eq_ok.mp hvalidate).withContexts hsuits'
  rw [← hcommute] at hvalid ⊢
  exact run_dispatchNext h0 h1 (Prod.ext hhead rfl) hknown hready' (validate_eq_ok.mpr hvalid)

/-! ## Cooperative publication -/

theorem carried_installInitial (fail : Option Nat) {grants : List (Nat × UInt64 × UInt64)}
    (hgrants : ∀ g ∈ grants, KnownTask g.2.1) (installed : List (UInt64 × UInt64)) :
    Carried c0 c1 (installInitial fail installed grants) := by
  induction grants generalizing installed with
  | nil => exact .pure _
  | cons grant rest ih =>
    obtain ⟨step, task, rights⟩ := grant
    unfold installInitial
    refine .ite (.undoing (.fail _)) (.bind (.undoing ?_) fun handle => ?_)
    · exact carried_onTable (hgrants _ (List.mem_cons_self)) id _
    · exact ih (fun g hg => hgrants g (List.mem_cons_of_mem _ hg)) _

theorem carried_publishInitial (fail : Option Nat) : Carried c0 c1 (publishInitial fail) := by
  refine .bind (carried_installInitial fail ?_ []) fun installed => ?_
  · intro g hg
    fin_cases hg
    · exact .inl rfl
    · exact .inr rfl
  · refine .undoing (.ite (.fail _) ?_)
    refine .bind (carried_onTable (.inl rfl) _ _) fun _ => ?_
    refine .bind (carried_onTable (.inr rfl) _ _) fun _ => ?_
    refine .bind (.update (fun _ h => h) fun _ => rfl) fun _ => ?_
    refine .bind (carried_onQueue _) fun _ => ?_
    exact .bind (carried_onQueue _) fun _ => carried_validate

/-! ## Supervised publication -/

theorem carried_installSupervisor (fail : Option Nat) (undo : List UInt64 → Runtime → Runtime)
    (grants : List (Nat × UInt32 × UInt64 × UInt64)) (installed : List UInt64) :
    Carried c0 c1 (installSupervisor fail undo installed grants) := by
  induction grants generalizing installed with
  | nil => exact .pure _
  | cons grant rest ih =>
    obtain ⟨step, objectType, objectId, rights⟩ := grant
    unfold installSupervisor
    refine .ite (.undoing (.fail _)) (.bind (.undoing ?_) fun handle => ih _)
    exact carried_onTable (.inl rfl) id _

theorem carried_publishSupervisor (fail : Option Nat) : Carried c0 c1 (publishSupervisor fail) := by
  refine .bind (carried_installSupervisor fail _ _ _) fun installed => ?_
  refine .undoing (.ite (.fail _) ?_)
  refine .bind (carried_onTable (.inl rfl) _ _) fun _ => ?_
  refine .bind (.update (fun _ h => h) fun _ => rfl) fun _ => .ite (.fail _) ?_
  exact .bind (carried_onQueue _) fun _ => carried_validate

end Runtime

/-! ## Journaled publication -/

namespace JournaledRuntime

/-- The method does the same with other saved registers. -/
abbrev Carried (c0 c1 : TaskContext) (m : Method JournaledRuntime ε α) : Prop :=
  Method.Carries (fun jr => jr.runtime.Suits c0 c1)
    (fun jr => { jr with runtime := jr.runtime.withContexts c0 c1 }) m

theorem carried_onRuntime {m : Method Runtime RuntimeError α} (h : Runtime.Carried c0 c1 m) :
    Carried c0 c1 (onRuntime m) := by
  intro jr a jr' hsuits hrun
  obtain ⟨rt, hm, rfl⟩ := onRuntime_eq_ok hrun
  obtain ⟨hsuits', hm'⟩ := h jr.runtime a rt hsuits hm
  exact ⟨hsuits', run_onRuntime { jr with runtime := jr.runtime.withContexts c0 c1 } hm'⟩

theorem carried_onJournal (m : Method EffectJournal EffectJournalError α) :
    Carried c0 c1 (onJournal m) :=
  .onPart (fun _ => rfl) (fun _ _ => rfl) fun _ _ h => h

theorem carried_validate : Carried c0 c1 (query validate) := by
  refine .query fun jr _ hsuits h => validate_eq_ok.mpr ?_
  have hvalid := validate_eq_ok.mp h
  exact { hvalid with runtime := hvalid.runtime.withContexts hsuits }

theorem carried_installJournal (baseHandles : List UInt64) :
    Carried c0 c1 (installJournal baseHandles) := by
  refine .bind (.undoing (carried_onRuntime (Runtime.carried_onTable (.inl rfl) _ _))) fun _ => ?_
  refine .ite (.pure _) ?_
  intro jr a jr' _ hrun
  rw [run_bind_eq_ok] at hrun
  obtain ⟨_, _, -, hfail⟩ := hrun
  cases hfail

/-- What follows the last fault point. An error of the attempt is an error of the publication. -/
theorem carried_last :
    Carried c0 c1 (do
      match ← attempt (do
          onRuntime (Runtime.onQueue (RunQueue.push senderTaskId))
          query validate) with
      | .error _ => fail .publicationFailure
      | .ok () => pure () : Method JournaledRuntime RuntimeError Unit) := by
  intro jr a jr' hsuits hrun
  rw [run_bind_eq_ok] at hrun
  obtain ⟨result, jr₁, hattempt, hmatch⟩ := hrun
  cases result with
  | error e => cases hmatch
  | ok u =>
    cases hmatch
    have hinner : Carried c0 c1 (do
        onRuntime (Runtime.onQueue (RunQueue.push senderTaskId))
        query validate : Method JournaledRuntime RuntimeError Unit) :=
      .bind (carried_onRuntime (Runtime.carried_onQueue _)) fun _ => carried_validate
    obtain ⟨hsuits', hrun'⟩ := hinner jr u jr' hsuits (run_attempt_eq_ok.mp hattempt)
    exact ⟨hsuits', by rw [run_bind_ok (run_attempt_eq_ok.mpr hrun')]; rfl⟩

theorem carried_publishSupervisor (fail : Option Nat) : Carried c0 c1 (publishSupervisor fail) := by
  refine .bind (.undoing (carried_onRuntime (Runtime.carried_installSupervisor fail _ _ _)))
    fun baseHandles => .ite (.undoing (.fail _)) ?_
  refine .bind (carried_installJournal baseHandles) fun journalHandle => .undoing ?_
  refine .ite (.fail _) (.bind (carried_onJournal _) fun result => ?_)
  cases result with
  | error e => exact .fail _
  | ok u =>
    refine .ite (.fail _) ?_
    refine .bind (carried_onRuntime (Runtime.carried_onTable (.inl rfl) _ _)) fun _ => ?_
    exact .bind (.update (fun _ h => h) fun _ => rfl) fun _ => .ite (.fail _) carried_last

end JournaledRuntime

/-! ## The check before a task is resumed -/

/-- A context that `TaskContextV1::validate` accepts. -/
structure TaskContext.Accepted (c : TaskContext) (task generation root : UInt64)
    (policy : ContextPolicy) : Prop where
  task_eq : c.taskId = task
  generation_ne : c.generation ≠ 0
  generation_eq : c.generation = generation
  root_ne : c.root ≠ 0
  root_eq : c.root = root
  aligned : c.root % 4096 = 0
  instruction : isCanonical48 c.rip = true ∧ ¬ c.rip < policy.textStart ∧ c.rip < policy.textEnd
  stack : isCanonical48 c.rsp = true ∧ ¬ c.rsp < policy.stackStart ∧ ¬ c.rsp > policy.stackEnd
  selectors : c.cs = policy.userCode ∧ c.ss = policy.userData
  flags : c.rflags &&& 0x2 ≠ 0 ∧ c.rflags &&& forbiddenRflags = 0

theorem TaskContext.validate_eq_ok {c : TaskContext} {generation root : UInt64}
    {policy : ContextPolicy} :
    c.validate task generation root policy = .ok () ↔ c.Accepted task generation root policy := by
  unfold TaskContext.validate
  simp only [check_ite_eq_ok, not_or, not_not, ne_eq, and_true]
  constructor
  · rintro ⟨h1, ⟨h2, h3⟩, ⟨h4, h5, h6⟩, ⟨h7, h8, h9⟩, h10, h11, h12⟩
    exact ⟨h1, h2, h3, h4, h5, h6, ⟨h7, h8, UInt64.not_le.mp h9⟩, h10, h11, h12⟩
  · intro h
    exact ⟨h.task_eq, ⟨h.generation_ne, h.generation_eq⟩, ⟨h.root_ne, h.root_eq, h.aligned⟩,
      ⟨h.instruction.1, h.instruction.2.1, UInt64.not_le.mpr h.instruction.2.2⟩, h.stack,
      h.selectors, h.flags⟩

end MakopaVerified.TaskRuntime
