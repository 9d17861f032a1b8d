import MakopaVerified.TaskRuntime.Reads

/-!
# Two runs that differ in the arguments of requests

Two traps are the same step when they are made with the same registers, but for the argument of a
request or of a commit; a commit that names the argument of the open request in one run does so in
the other. What the journal and the tasks' statuses show of two such runs is compared here: it must
not depend on the arguments.
-/

namespace MakopaVerified.TaskRuntime

open Foundation

/-- Two traps of `task` with the same registers, but for the argument of a request. -/
structure SameTrap (task : UInt64) (frame₁ frame₂ : TrapFrame) (before₁ before₂ : Runtime) :
    Prop where
  registers : frame₂ = { frame₁ with rdx := frame₂.rdx }
  root : (before₂.input task).root = (before₁.input task).root
  /-- Only a submitted argument and the argument of a commit may differ. -/
  argument : frame₁.operation ≠ some .submitApproval → frame₁.operation ≠ some .commitEffect →
    frame₂.rdx = frame₁.rdx
  /-- A commit names the open request's argument in both runs or in neither. -/
  commit : frame₁.operation = some .commitEffect → before₁.broker.requestPresent = true →
    before₂.broker.requestPresent = true →
    (frame₁.rdx = before₁.broker.request.argument ↔ frame₂.rdx = before₂.broker.request.argument)

namespace KernelEvent

/-- The two runs make the same step. -/
def Same : KernelEvent → KernelEvent → Prop
  | trap task₁ frame₁ _ before₁ _, trap task₂ frame₂ _ before₂ _ =>
    task₁ = task₂ ∧ SameTrap task₁ frame₁ frame₂ before₁ before₂
  | beginTeardown task₁ _ _, beginTeardown task₂ _ _ => task₁ = task₂
  | completeTeardown task₁ _ _ _, completeTeardown task₂ _ _ _ => task₁ = task₂
  | finishReclamation, finishReclamation => True
  | _, _ => False

end KernelEvent

/-- The two tasks find the same statuses in both runs. -/
def Runtime.SameStatuses (rt₁ rt₂ : Runtime) : Prop :=
  rt₁.task0.context.rax = rt₂.task0.context.rax ∧ rt₁.task1.context.rax = rt₂.task1.context.rax

namespace KernelEvent

/-- The two runs show the same of a step: the outcome, the statuses of both tasks, and all
registers after a read of the journal. -/
def SameShown : KernelEvent → KernelEvent → Prop
  | trap task frame outcome₁ _ after₁, trap _ _ outcome₂ _ after₂ =>
    outcome₁ = outcome₂ ∧ after₁.SameStatuses after₂ ∧
      (frame.ReadsJournal → after₁.input task = after₂.input task)
  | beginTeardown _ _ after₁, beginTeardown _ _ after₂ => after₁.SameStatuses after₂
  | completeTeardown _ next₁ _ after₁, completeTeardown _ next₂ _ after₂ =>
    next₁ = next₂ ∧ after₁.SameStatuses after₂
  | finishReclamation, finishReclamation => True
  | _, _ => False

end KernelEvent

/-! ## Executable pairs of runs -/

instance (task : UInt64) (frame₁ frame₂ : TrapFrame) (before₁ before₂ : Runtime) :
    Decidable (SameTrap task frame₁ frame₂ before₁ before₂) :=
  decidable_of_iff
    (frame₂ = { frame₁ with rdx := frame₂.rdx } ∧
      (before₂.input task).root = (before₁.input task).root ∧
      (frame₁.operation ≠ some .submitApproval → frame₁.operation ≠ some .commitEffect →
        frame₂.rdx = frame₁.rdx) ∧
      (frame₁.operation = some .commitEffect → before₁.broker.requestPresent = true →
        before₂.broker.requestPresent = true →
        (frame₁.rdx = before₁.broker.request.argument ↔
          frame₂.rdx = before₂.broker.request.argument)))
    ⟨fun ⟨h₁, h₂, h₃, h₄⟩ => ⟨h₁, h₂, h₃, h₄⟩, fun ⟨h₁, h₂, h₃, h₄⟩ => ⟨h₁, h₂, h₃, h₄⟩⟩

instance : ∀ e₁ e₂ : KernelEvent, Decidable (e₁.Same e₂)
  | .trap task₁ frame₁ _ before₁ _, .trap task₂ frame₂ _ before₂ _ =>
    inferInstanceAs (Decidable (task₁ = task₂ ∧ SameTrap task₁ frame₁ frame₂ before₁ before₂))
  | .beginTeardown task₁ _ _, .beginTeardown task₂ _ _ => inferInstanceAs (Decidable (task₁ = task₂))
  | .completeTeardown task₁ _ _ _, .completeTeardown task₂ _ _ _ =>
    inferInstanceAs (Decidable (task₁ = task₂))
  | .finishReclamation, .finishReclamation => .isTrue trivial
  | .trap .., .beginTeardown .. | .trap .., .completeTeardown .. | .trap .., .finishReclamation
  | .beginTeardown .., .trap .. | .beginTeardown .., .completeTeardown ..
  | .beginTeardown .., .finishReclamation | .completeTeardown .., .trap ..
  | .completeTeardown .., .beginTeardown .. | .completeTeardown .., .finishReclamation
  | .finishReclamation, .trap .. | .finishReclamation, .beginTeardown ..
  | .finishReclamation, .completeTeardown .. => .isFalse id

namespace KernelRuntime

/-- Two lists of calls on two runtimes, as long as they make the same steps. -/
def replayBoth (k₁ k₂ : KernelRuntime) : List (KernelCall × KernelCall) →
    Option ((List KernelEvent × KernelRuntime) × List KernelEvent × KernelRuntime)
  | [] => some (([], k₁), [], k₂)
  | (call₁, call₂) :: calls =>
    match k₁.perform call₁, k₂.perform call₂ with
    | .ok (e₁, k₁'), .ok (e₂, k₂') =>
      if e₁.Same e₂ then
        (replayBoth k₁' k₂' calls).map fun r => ((e₁ :: r.1.1, r.1.2), e₂ :: r.2.1, r.2.2)
      else none
    | _, _ => none

/-- Two runs from one publication. -/
def executeBoth (kind : KernelRuntimeKind) (first second : TaskContext)
    (calls : List (KernelCall × KernelCall)) :
    Option ((List KernelEvent × KernelRuntime) × List KernelEvent × KernelRuntime) :=
  match boot kind first second with
  | .ok k => replayBoth k k calls
  | .error _ => none

end KernelRuntime

/-- The journal of a journaled runtime. -/
def KernelRuntime.journal? : KernelRuntime → Option EffectJournal
  | base _ => none
  | journaled jr => some jr.journal

end MakopaVerified.TaskRuntime
