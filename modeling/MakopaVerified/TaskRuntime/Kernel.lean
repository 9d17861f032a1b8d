import MakopaVerified.Foundation.Runs
import MakopaVerified.TaskRuntime.Journaled

/-!
# The kernel's runs of a task runtime

`KernelRuntime` of `kernel/src/arch_x86_64.rs` and the calls that the kernel makes on it: the
first dispatch, then for every trap of the running task `capture_trap` with whatever registers the
user code left and `handle_trap`, and `begin_teardown` and `complete_teardown` for a task that has
exited. A journaled runtime is reclaimed at the end. `kernelSystem` is the transition system of
these calls; an event keeps the runtime before and after the call, so that a history can be asked
what a task was told.
-/

namespace MakopaVerified.TaskRuntime

open Foundation

inductive KernelRuntime where
  | base (runtime : Runtime)
  | journaled (runtime : JournaledRuntime)
  deriving DecidableEq, Repr

inductive KernelRuntimeKind where
  | cooperative | supervised | journaled
  deriving DecidableEq, Repr

namespace KernelRuntime

/-- The task runtime itself, without a journal. -/
def runtime : KernelRuntime → Runtime
  | base rt => rt
  | journaled jr => jr.runtime

/-- `match self { Base(runtime) => .., Journaled(runtime) => .. }`. -/
def call {α : Type} (onBase : Method Runtime RuntimeError α)
    (onJournaled : Method JournaledRuntime RuntimeError α) : Method KernelRuntime RuntimeError α
  | base rt => ((onBase.run rt).1, base (onBase.run rt).2)
  | journaled jr => ((onJournaled.run jr).1, journaled (onJournaled.run jr).2)

/-- `KernelRuntime::running_task`. -/
def runningTask (k : KernelRuntime) : Except RuntimeError UInt64 := k.runtime.runningTask

/-- `KernelRuntime::state`. -/
def state (k : KernelRuntime) (task : UInt64) : Except RuntimeError TaskState :=
  k.runtime.state task

/-- `KernelRuntime::generation`. -/
def generation (k : KernelRuntime) (task : UInt64) : Except RuntimeError UInt64 :=
  k.runtime.generation task

/-- `dispatch_next` of the wrapped runtime. -/
def dispatchNext : Method KernelRuntime RuntimeError (Option UInt64) :=
  call Runtime.dispatchNext JournaledRuntime.dispatchNext

/-- `KernelRuntime::capture_trap`. -/
def captureTrap (task : UInt64) (frame : TrapFrame) (root gen : UInt64) :
    Method KernelRuntime RuntimeError Unit :=
  call (Runtime.captureTrap task frame root gen) (JournaledRuntime.captureTrap task frame root gen)

/-- `KernelRuntime::handle_trap`. -/
def handleTrap (task : UInt64) : Method KernelRuntime RuntimeError TrapOutcome :=
  call (Runtime.handleTrap task) (JournaledRuntime.handleTrap task)

/-- `KernelRuntime::begin_teardown`. -/
def beginTeardown (task : UInt64) : Method KernelRuntime RuntimeError Unit :=
  call (Runtime.beginTeardown task) (JournaledRuntime.beginTeardown task)

/-- `KernelRuntime::complete_teardown`. -/
def completeTeardown (task : UInt64) : Method KernelRuntime RuntimeError (Option UInt64) :=
  call (Runtime.completeTeardown task) (JournaledRuntime.completeTeardown task)

/-- `KernelRuntime::validate`. -/
def validate : KernelRuntime → Except RuntimeError Unit
  | base rt => rt.validate
  | journaled jr => jr.validate

end KernelRuntime

/-- A call that has succeeded. The runtime that a trap event starts from is the one that already
holds the captured registers. -/
inductive KernelEvent where
  | trap (task : UInt64) (frame : TrapFrame) (outcome : TrapOutcome) (before after : Runtime)
  | beginTeardown (task : UInt64) (before after : Runtime)
  | completeTeardown (task : UInt64) (next : Option UInt64) (before after : Runtime)
  | finishReclamation

/-- One successful call of the kernel. -/
inductive KernelStep : KernelRuntime → KernelEvent → KernelRuntime → Prop where
  | trap {k k₁ k' : KernelRuntime} {task gen root : UInt64} {frame : TrapFrame}
      {outcome : TrapOutcome} (running : k.runningTask = .ok task)
      (own_generation : k.generation task = .ok gen) (root_ne : root ≠ 0)
      (captured : (KernelRuntime.captureTrap task frame root gen).run k = (.ok (), k₁))
      (handled : (KernelRuntime.handleTrap task).run k₁ = (.ok outcome, k')) :
      KernelStep k (.trap task frame outcome k₁.runtime k'.runtime) k'
  | beginTeardown {k k' : KernelRuntime} {task : UInt64}
      (begun : (KernelRuntime.beginTeardown task).run k = (.ok (), k')) :
      KernelStep k (.beginTeardown task k.runtime k'.runtime) k'
  | completeTeardown {k k' : KernelRuntime} {task : UInt64} {next : Option UInt64}
      (completed : (KernelRuntime.completeTeardown task).run k = (.ok next, k')) :
      KernelStep k (.completeTeardown task next k.runtime k'.runtime) k'
  | finishReclamation {jr jr' : JournaledRuntime}
      (finished : JournaledRuntime.finishReclamation.run jr = (.ok (), jr')) :
      KernelStep (.journaled jr) .finishReclamation (.journaled jr')

/-- What the constructor of each profile returns for contexts it accepts. -/
inductive Published : KernelRuntimeKind → KernelRuntime → Prop where
  | cooperative {sender receiver : TaskContext} {rt : Runtime} :
      Runtime.new sender receiver = .ok rt → Published .cooperative (.base rt)
  | supervised {supervisor workload : TaskContext} {rt : Runtime} :
      Runtime.newSupervised supervisor workload = .ok rt → Published .supervised (.base rt)
  | journaled {supervisor workload : TaskContext} {jr : JournaledRuntime} :
      JournaledRuntime.newSupervised supervisor workload = .ok jr →
        Published .journaled (.journaled jr)

/-- The kernel after publication and the first dispatch. -/
def Booted (kind : KernelRuntimeKind) (k : KernelRuntime) : Prop :=
  ∃ k₀ next, Published kind k₀ ∧ KernelRuntime.dispatchNext.run k₀ = (.ok next, k)

/-- All runs of the kernel on one profile. -/
def kernelSystem (kind : KernelRuntimeKind) : System KernelRuntime KernelEvent where
  init := Booted kind
  step := KernelStep

/-! ## Executable runs -/

/-- A call of the kernel with its arguments. -/
inductive KernelCall where
  | trap (root : UInt64) (root_ne : root ≠ 0) (frame : TrapFrame)
  | beginTeardown (task : UInt64)
  | completeTeardown (task : UInt64)
  | finishReclamation

namespace KernelRuntime

/-- The constructor of a profile. -/
def publish (kind : KernelRuntimeKind) (first second : TaskContext) :
    Except RuntimeError KernelRuntime :=
  match kind with
  | .cooperative => (Runtime.new first second).map .base
  | .supervised => (Runtime.newSupervised first second).map .base
  | .journaled => (JournaledRuntime.newSupervised first second).map .journaled

/-- Publication and the first dispatch. -/
def boot (kind : KernelRuntimeKind) (first second : TaskContext) :
    Except RuntimeError KernelRuntime := do
  let k ← publish kind first second
  match dispatchNext.run k with
  | (.ok _, k') => .ok k'
  | (.error e, _) => .error e

/-- One call. The kernel stops at an error. -/
def perform (k : KernelRuntime) : KernelCall → Except RuntimeError (KernelEvent × KernelRuntime)
  | .trap root _ frame => do
    let task ← k.runningTask
    let gen ← k.generation task
    match (captureTrap task frame root gen).run k with
    | (.error e, _) => .error e
    | (.ok (), k₁) =>
      match (handleTrap task).run k₁ with
      | (.error e, _) => .error e
      | (.ok outcome, k') => .ok (.trap task frame outcome k₁.runtime k'.runtime, k')
  | .beginTeardown task =>
    match (KernelRuntime.beginTeardown task).run k with
    | (.error e, _) => .error e
    | (.ok (), k') => .ok (.beginTeardown task k.runtime k'.runtime, k')
  | .completeTeardown task =>
    match (KernelRuntime.completeTeardown task).run k with
    | (.error e, _) => .error e
    | (.ok next, k') => .ok (.completeTeardown task next k.runtime k'.runtime, k')
  | .finishReclamation =>
    match k with
    | .base _ => .error .wrongState
    | .journaled jr =>
      match JournaledRuntime.finishReclamation.run jr with
      | (.error e, _) => .error e
      | (.ok (), jr') => .ok (.finishReclamation, .journaled jr')

/-- A list of calls, with the events that they left. -/
def replay (k : KernelRuntime) :
    List KernelCall → Except RuntimeError (List KernelEvent × KernelRuntime)
  | [] => .ok ([], k)
  | call :: calls => do
    let (e, k₁) ← k.perform call
    let (events, k') ← k₁.replay calls
    .ok (e :: events, k')

/-- A run from publication on. -/
def execute (kind : KernelRuntimeKind) (first second : TaskContext) (calls : List KernelCall) :
    Option (List KernelEvent × KernelRuntime) :=
  (boot kind first second >>= fun k => k.replay calls).toOption

end KernelRuntime

/-- A frame with the four registers that an operation reads. -/
def TrapFrame.request (rax rdi rsi rdx : UInt64) : TrapFrame :=
  { rax, rbx := 0, rcx := 0, rdx, rbp := 0, rsi, rdi, r8 := 0, r9 := 0, r10 := 0, r11 := 0,
    r12 := 0, r13 := 0, r14 := 0, r15 := 0, rip := 0, cs := 0, rflags := 0, rsp := 0, ss := 0 }

/-- A trap with such a frame. -/
def KernelCall.request (rax rdi rsi rdx : UInt64) : KernelCall :=
  .trap 4096 (by decide) (.request rax rdi rsi rdx)

/-- Contexts for the constructors. -/
def TaskContext.start (task generation : UInt64) : TaskContext :=
  TaskContext.initial task generation 4096 0 0 0 0

end MakopaVerified.TaskRuntime
