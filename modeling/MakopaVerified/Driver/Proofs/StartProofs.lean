import MakopaVerified.AddressSpace.Proofs.ConstructProofs
import MakopaVerified.Boot.Proofs.AgreementProofs
import MakopaVerified.Driver.Scheduler
import MakopaVerified.Frames.Proofs.UndoProofs
import MakopaVerified.TaskRuntime.Proofs.AcceptProofs
import MakopaVerified.TaskRuntime.Proofs.KernelProofs

/-!
# The first contexts

The contexts that a scheduler makes from the roots of its two address spaces pass all checks exactly
when the roots are page-aligned and not zero.
-/

namespace MakopaVerified.Driver

open Foundation AddressSpace TaskRuntime Method List
open BootContract Boot Frames

variable {r0 r1 : UInt64}

/-! ## The constructors -/

theorem contextOk_initial {task generation r : UInt64} {state : TaskState} (hstate : state ≠ .dead)
    (hr : r ≠ 0) :
    ContextOk (Runtime.unpublishedSlot task state (initialContext task generation 4096))
      (initialContext task generation r) :=
  ⟨fun hdead => absurd hdead hstate, fun _ => ⟨rfl, rfl, hr⟩⟩

theorem construct_eq_ok {c0 c1 : TaskContext} {fail : Option Nat} {rt : Runtime}
    (h : (Runtime.publishInitial fail).run (Runtime.unpublished c0 c1) = (.ok (), rt)) :
    Runtime.construct c0 c1 fail = .ok rt := by
  unfold Runtime.construct
  rw [h]

theorem constructSupervised_eq_ok {c0 c1 : TaskContext} {fail : Option Nat} {rt : Runtime}
    (h : (Runtime.publishSupervisor fail).run (Runtime.unpublishedSupervised c0 c1) =
      (.ok (), rt)) : Runtime.constructSupervised c0 c1 fail = .ok rt := by
  unfold Runtime.constructSupervised
  rw [h]

theorem journaled_eq_ok {c0 c1 : TaskContext} {jr : JournaledRuntime}
    (htasks : c0.taskId = senderTaskId ∧ c1.taskId = receiverTaskId)
    (hgenerations : c0.generation = supervisorGeneration ∧ c1.generation = workloadGeneration)
    (h : (JournaledRuntime.publishSupervisor none).run
      ⟨Runtime.unpublishedSupervised c0 c1, EffectJournal.building⟩ = (.ok (), jr)) :
    JournaledRuntime.newSupervised c0 c1 = .ok jr := by
  unfold JournaledRuntime.newSupervised
  rw [if_neg (by simp [htasks]), if_neg (by simp [hgenerations]), h]

/-- The runtimes that the schedulers would publish for the roots 4096. -/
def publishedCooperative : Runtime :=
  ((Runtime.publishInitial none).run
    (Runtime.unpublished (initialContext senderTaskId senderGeneration 4096)
      (initialContext receiverTaskId receiverGeneration 4096))).2

def publishedSupervised : Runtime :=
  ((Runtime.publishSupervisor none).run
    (Runtime.unpublishedSupervised (initialContext senderTaskId supervisorGeneration 4096)
      (initialContext receiverTaskId workloadGeneration 4096))).2

def publishedJournaled : JournaledRuntime :=
  ((JournaledRuntime.publishSupervisor none).run
    ⟨Runtime.unpublishedSupervised (initialContext senderTaskId supervisorGeneration 4096)
      (initialContext receiverTaskId workloadGeneration 4096), EffectJournal.building⟩).2

/-- Each publication is computed for the roots 4096; it does the same for the others, and so does the
first dispatch, which is that of `next`. -/
theorem initialRuntime_starts (kind : KernelRuntimeKind) (h0 : r0 ≠ 0) (h1 : r1 ≠ 0) :
    ∃ k next k' rt, initialRuntime kind r0 r1 = .ok k ∧
      KernelRuntime.dispatchNext.run k = (.ok (some next), k') ∧
      (kind = .cooperative ∨ next = senderTaskId) ∧ k'.runtime.Running next ∧
      k'.runtime = Runtime.withContexts (initialContext senderTaskId (generations kind).1 r0)
        (initialContext receiverTaskId (generations kind).2 r1) rt := by
  cases kind with
  | cooperative =>
    have hconcrete : (Runtime.publishInitial none).run
        (Runtime.unpublished (initialContext senderTaskId senderGeneration 4096)
          (initialContext receiverTaskId receiverGeneration 4096)) =
            (.ok (), publishedCooperative) := run_eq_of_result (by decide +kernel)
    obtain ⟨hsuits, hrun⟩ := Runtime.carried_publishInitial none _ _ _
      ⟨contextOk_initial (by decide) h0, contextOk_initial (by decide) h1⟩ hconcrete
    have hnew : Runtime.new (initialContext senderTaskId senderGeneration r0)
        (initialContext receiverTaskId receiverGeneration r1) = .ok _ := construct_eq_ok hrun
    have hdispatch := Runtime.dispatchNext_withContexts (.inr rfl)
      (show publishedCooperative.Dispatches receiverTaskId by decide +kernel) hsuits
    exact ⟨_, _, _, _, congrArg (Except.map KernelRuntime.base) hnew,
      KernelRuntime.run_call_base hdispatch, .inl rfl, .inr ⟨rfl, rfl⟩, rfl⟩
  | supervised =>
    have hconcrete : (Runtime.publishSupervisor none).run
        (Runtime.unpublishedSupervised (initialContext senderTaskId supervisorGeneration 4096)
          (initialContext receiverTaskId workloadGeneration 4096)) =
            (.ok (), publishedSupervised) := run_eq_of_result (by decide +kernel)
    obtain ⟨hsuits, hrun⟩ := Runtime.carried_publishSupervisor none _ _ _
      ⟨contextOk_initial (by decide) h0, contextOk_initial (by decide) h1⟩ hconcrete
    have hnew : Runtime.newSupervised (initialContext senderTaskId supervisorGeneration r0)
        (initialContext receiverTaskId workloadGeneration r1) = .ok _ :=
      constructSupervised_eq_ok hrun
    have hdispatch := Runtime.dispatchNext_withContexts (.inl rfl)
      (show publishedSupervised.Dispatches senderTaskId by decide +kernel) hsuits
    exact ⟨_, _, _, _, congrArg (Except.map KernelRuntime.base) hnew,
      KernelRuntime.run_call_base hdispatch, .inr rfl, .inl ⟨rfl, rfl⟩, rfl⟩
  | journaled =>
    have hconcrete : (JournaledRuntime.publishSupervisor none).run
        ⟨Runtime.unpublishedSupervised (initialContext senderTaskId supervisorGeneration 4096)
          (initialContext receiverTaskId workloadGeneration 4096), EffectJournal.building⟩ =
            (.ok (), publishedJournaled) := run_eq_of_result (by decide +kernel)
    obtain ⟨hsuits, hrun⟩ := JournaledRuntime.carried_publishSupervisor none _ _ _
      ⟨contextOk_initial (by decide) h0, contextOk_initial (by decide) h1⟩ hconcrete
    have hnew : JournaledRuntime.newSupervised (initialContext senderTaskId supervisorGeneration r0)
        (initialContext receiverTaskId workloadGeneration r1) = .ok _ :=
      journaled_eq_ok ⟨rfl, rfl⟩ ⟨rfl, rfl⟩ hrun
    have hdispatch := Runtime.dispatchNext_withContexts (.inl rfl)
      (show publishedJournaled.runtime.Dispatches senderTaskId by decide +kernel) hsuits
    exact ⟨_, _, _, _, congrArg (Except.map KernelRuntime.journaled) hnew,
      KernelRuntime.run_call_journaled (JournaledRuntime.run_onRuntime _ hdispatch), .inr rfl,
      .inl ⟨rfl, rfl⟩, rfl⟩

/-! ## The check of the registers -/

/-- An initial context is accepted exactly for a root that can be one. -/
theorem validate_initial {task generation : UInt64} (hgeneration : generation ≠ 0) :
    (initialContext task generation r0).validate task generation r0 taskContextPolicy = .ok () ↔
      r0 ≠ 0 ∧ r0 % 4096 = 0 := by
  rw [TaskContext.validate_eq_ok]
  constructor
  · intro h
    exact ⟨h.root_ne, h.aligned⟩
  · rintro ⟨hroot, haligned⟩
    exact
      { task_eq := rfl
        generation_ne := hgeneration
        generation_eq := rfl
        root_ne := hroot
        root_eq := rfl
        aligned := haligned
        instruction := by
          show isCanonical48 userText = true ∧ ¬ userText < userText ∧
            userText < userText + AddressSpace.pageSize
          decide
        stack := by
          show isCanonical48 userStackTop = true ∧ ¬ userStackTop < userStack ∧
            ¬ userStackTop > userStackTop
          decide
        selectors := ⟨rfl, rfl⟩
        flags := by
          show (0x2 : UInt64) &&& 0x2 ≠ 0 ∧ (0x2 : UInt64) &&& forbiddenRflags = 0
          decide }

theorem generations_ne (kind : KernelRuntimeKind) :
    (generations kind).1 ≠ 0 ∧ (generations kind).2 ≠ 0 := by
  cases kind <;> decide

/-- What the source calls `contexts_valid`. -/
theorem contextsValid_iff (kind : KernelRuntimeKind) (h0 : r0 % 4096 = 0) (h1 : r1 % 4096 = 0) :
    contextsValid kind r0 r1 = true ↔ r0 ≠ 0 ∧ r1 ≠ 0 := by
  obtain ⟨hg0, hg1⟩ := generations_ne kind
  unfold contextsValid
  rw [Bool.and_eq_true, decide_eq_true_eq, decide_eq_true_eq, validate_initial hg0,
    validate_initial hg1, and_iff_left h0, and_iff_left h1]

theorem startable_iff (kind : KernelRuntimeKind) (h0 : r0 % 4096 = 0) (h1 : r1 % 4096 = 0) :
    (contextsValid kind r0 r1 = true ∧ ∃ k, initialRuntime kind r0 r1 = .ok k) ↔
      r0 ≠ 0 ∧ r1 ≠ 0 := by
  rw [contextsValid_iff kind h0 h1]
  refine ⟨And.left, fun h => ⟨h, ?_⟩⟩
  obtain ⟨k, -, -, -, hk, -⟩ := initialRuntime_starts kind h.1 h.2
  exact ⟨k, hk⟩

/-! ## Address spaces on the frames of an allocator -/

section AllocatorBacked

variable {σ ε : Type} {B : AddressSpaceBackend σ ε} {allocator : σ → FrameAllocator}
  {pool : FramePool} {generation : UInt64} {s : σ}

/-- The backend takes its frames from an allocator, and the other calls of a construction succeed and
leave the allocator alone. -/
structure AllocatorBacked (B : AddressSpaceBackend σ ε) (allocator : σ → FrameAllocator) : Prop where
  allocates : ∀ role s frame fa, FrameAllocator.allocateFrame.run (allocator s) = (.ok frame, fa) →
    ∃ s', (B.allocateFrame role).run s = (.ok frame, s') ∧ allocator s' = fa
  prepares : ∀ generation role frame s,
    ∃ s', (B.prepareFrame generation role frame).run s = (.ok (), s') ∧ allocator s' = allocator s
  installs : ∀ link parent child s,
    ∃ s', (B.installLink link parent child).run s = (.ok (), s') ∧ allocator s' = allocator s

/-- The frames came from the pool, one after the other, and the allocator stands for the rest. -/
def Handed (allocator : σ → FrameAllocator) (pool : FramePool) (frames : List OwnedFrame) (s : σ) :
    Prop :=
  ∃ pool', pool.Hands (frames.map (·.physicalStart)) pool' ∧ Stands (allocator s) pool'

theorem aligned_of_toNat {address : UInt64} (h : address.toNat % 4096 = 0) :
    address % 4096 = 0 := by
  apply UInt64.toNat_inj.mp
  rw [UInt64.toNat_mod]
  exact h

theorem AllocatorBacked.prepares_frames (hB : AllocatorBacked B allocator)
    (hfinite : pool.free.Finite) (hmany : taskFrameCount ≤ pool.free.ncard) :
    Prepares B generation (Handed allocator pool) fun _ _ _ => False := by
  rintro done role rest s hall hok ⟨pool', hhands, hstands⟩
  have hcount := hhands.ncard_add_length hfinite
  have hlength := congrArg List.length hall
  rw [length_append, length_map, length_cons,
    show FrameRole.all.length = taskFrameCount from rfl] at hlength
  rw [length_map] at hcount
  rcases FrameAllocator.allocateFrame_spec hstands with
    ⟨hempty, -⟩ | ⟨address, fa, hallocate, haligned, hleast, hstands'⟩
  · rw [hempty, Set.ncard_empty] at hcount
    omega
  obtain ⟨s₁, hrun, hallocator⟩ := hB.allocates role s address fa hallocate
  obtain ⟨s₂, hprepare, hkeeps⟩ := hB.prepares generation role address s₁
  refine .of_ok hrun ⟨⟨?_, ?_⟩, .of_ok hprepare ⟨pool'.take (frameNumber address), ?_, ?_⟩⟩
  · intro f hf
    rcases mem_append.mp hf with hf | hf
    · exact hok.aligned f hf
    · obtain rfl := mem_singleton.mp hf
      exact aligned_of_toNat haligned
  · rw [map_append, nodup_append]
    refine ⟨hok.distinct, nodup_singleton _, fun a ha b hb hsame => ?_⟩
    obtain rfl := mem_singleton.mp hb
    rw [hsame] at ha
    exact hhands.not_free ha hleast.1
  · rw [map_append]
    exact hhands.append (.cons haligned hleast .nil)
  · rw [hkeeps, hallocator]
    exact hstands'

theorem AllocatorBacked.links_frames (hB : AllocatorBacked B allocator) :
    Links B fun frames _ s => Handed allocator pool frames s := by
  rintro frames n link parent child s - - - - ⟨pool', hhands, hstands⟩
  obtain ⟨s', hrun, hkeeps⟩ := hB.installs link parent child s
  exact .of_ok hrun ⟨pool', hhands, by rw [hkeeps]; exact hstands⟩

/-- One address space. -/
theorem AllocatorBacked.constructs (hB : AllocatorBacked B allocator)
    (hgeneration : generation ≠ 0) (hstands : Stands (allocator s) pool)
    (hmany : taskFrameCount ≤ pool.free.ncard) :
    ∃ owner s', (constructAddressSpace B generation).run s = (.ok owner, s') ∧
      owner.Published generation ∧ Handed allocator pool owner.ledger.frames s' := by
  have hends := constructAddressSpace_known hgeneration
    (hB.prepares_frames hstands.finite_free hmany) hB.links_frames (fun _ _ _ h => h)
    ⟨pool, .nil, hstands⟩
  refine (hends.mono (fun _ _ h => h) ?_).returns
  rintro e s' ⟨_, _, _, _, -, hfalse, -⟩
  exact hfalse

/-- Both address spaces, and their roots: the first root is on the first frame of the pool, and the
second on another. -/
theorem AllocatorBacked.constructs_pair (hB : AllocatorBacked B allocator) {first second : UInt64}
    (hfirst : first ≠ 0) (hsecond : second ≠ 0) (hstands : Stands (allocator s) pool)
    (hmany : 2 * taskFrameCount ≤ pool.free.ncard) :
    ∃ pair s' r0 r1, (constructAddressSpacePair B first second).run s = (.ok pair, s') ∧
      pair.first.root = some r0 ∧ pair.second.root = some r1 ∧ r0.toNat % 4096 = 0 ∧
      r1.toNat % 4096 = 0 ∧ IsLeast pool.free (frameNumber r0) ∧ r1 ≠ 0 := by
  obtain ⟨owner₀, s₁, hrun₀, hpublished₀, pool₁, hhands₀, hstands₁⟩ :=
    hB.constructs hfirst hstands (by omega)
  have hcount := hhands₀.ncard_add_length hstands.finite_free
  have hseven : (owner₀.ledger.frames.map (·.physicalStart)).length = taskFrameCount := by
    have hlength := congrArg List.length hpublished₀.roles
    rwa [length_map] at hlength ⊢
  obtain ⟨owner₁, s₂, hrun₁, hpublished₁, pool₂, hhands₁, hstands₂⟩ :=
    hB.constructs hsecond hstands₁ (by omega)
  obtain ⟨r0, rest₀, hroot₀, hframes₀⟩ := hpublished₀.head
  obtain ⟨r1, rest₁, hroot₁, hframes₁⟩ := hpublished₁.head
  rw [hframes₀, map_cons] at hhands₀
  rw [hframes₁, map_cons] at hhands₁
  have hgone : frameNumber r0 ∉ pool₁.free := hhands₀.not_free mem_cons_self
  obtain ⟨b, hfree₁⟩ := hhands₀.free_eq
  cases hhands₀ with
  | cons haligned₀ hleast₀ _ =>
    cases hhands₁ with
    | cons haligned₁ hleast₁ _ =>
      refine ⟨⟨owner₀, owner₁⟩, s₂, r0, r1, ?_, hroot₀, hroot₁, haligned₀, haligned₁, hleast₀,
        ?_⟩
      · have hpart : (onPart id (fun backend _ => backend) (Stop.map PairBuildFailure.first)
            (constructAddressSpace B first)).run s = (.ok owner₀, s₁) := by
          rw [run_onPart, id, hrun₀]
        rw [constructAddressSpacePair, run_bind_ok hpart,
          run_bind_ok (run_attempt_of hrun₁)]
        rfl
      · -- the first frame is below the second
        rintro rfl
        have hmem : frameNumber 0 ∈ pool.free := (hfree₁ ▸ hleast₁.1).1
        have hle : frameNumber r0 ≤ frameNumber 0 := hleast₀.2 hmem
        have hzero : frameNumber r0 = frameNumber 0 := Nat.le_antisymm hle (Nat.zero_le _)
        rw [hzero] at hgone
        exact hgone hleast₁.1

end AllocatorBacked

/-! ## The result -/

/-- A boot map with enough memory starts the schedulers exactly when physical page zero is not among
the usable ones. The allocator hands that page out like any other, first of all, and the first address
space then has its root there; but a context with the root zero is refused.
The regions are any that `validate_handoff` accepts with fourteen usable pages, the backend is any that
takes its frames from the allocator. -/
theorem scheduler_starts_iff {σ ε : Type} (B : AddressSpaceBackend σ ε)
    (allocator : σ → FrameAllocator) (hB : AllocatorBacked B allocator) (kind : KernelRuntimeKind)
    (handoff : BootHandoff) (handoffAddress regionsAddress : UInt64) (regions : List MemoryRegion)
    (hvalid : validateHandoff handoff handoffAddress regionsAddress regions = .ok ())
    (hmany : 14 ≤ (usableFrames regions).ncard) (fa : FrameAllocator) :
    ∃ fa', (FrameAllocator.initializeRegions regions).run fa = (.ok (), fa') ∧
      ∀ s, allocator s = fa' → ∃ pair s' r0 r1,
        (constructAddressSpacePair B (generations kind).1 (generations kind).2).run s =
          (.ok pair, s') ∧
        pair.first.root = some r0 ∧ pair.second.root = some r1 ∧
        ((contextsValid kind r0 r1 = true ∧ ∃ k, initialRuntime kind r0 r1 = .ok k) ↔
          0 ∉ usableFrames regions) := by
  obtain ⟨fa', hinitialize⟩ := initialize_ok_iff.mpr (manageable_of_handoff hvalid)
  refine ⟨fa', hinitialize, fun s hs => ?_⟩
  have hstands : Stands (allocator s) (.full (usableFrames regions)) := by
    rw [hs]
    exact initialized_stands hinitialize
  obtain ⟨hg0, hg1⟩ := generations_ne kind
  obtain ⟨pair, s', r0, r1, hrun, hroot₀, hroot₁, haligned₀, haligned₁, hleast, hne⟩ :=
    hB.constructs_pair hg0 hg1 hstands hmany
  refine ⟨pair, s', r0, r1, hrun, hroot₀, hroot₁, ?_⟩
  rw [startable_iff kind (aligned_of_toNat haligned₀) (aligned_of_toNat haligned₁),
    and_iff_left hne]
  have hzero : r0 = 0 ↔ 0 ∈ usableFrames regions := by
    constructor
    · rintro rfl
      exact hleast.1
    · intro hmem
      have hle : frameNumber r0 ≤ 0 := hleast.2 hmem
      exact (frameNumber_inj haligned₀ rfl).mp (Nat.le_antisymm hle (Nat.zero_le _))
  exact not_congr hzero

/-- The allocator itself as a backend. -/
def framesBackend : AddressSpaceBackend FrameAllocator AllocateError where
  allocateFrame _ := FrameAllocator.allocateFrame
  prepareFrame _ _ _ := pure ()
  installLink _ _ _ := pure ()
  removeLink _ _ _ := pure ()
  clearSharedEntries _ := pure ()
  clearTemporaryWindow := pure ()
  verifyUnreachable _ := pure ()
  returnFrame _ := pure ()

theorem framesBackend_backed : AllocatorBacked framesBackend id where
  allocates _ _ _ fa h := ⟨fa, h, rfl⟩
  prepares _ _ _ s := ⟨s, rfl, rfl⟩
  installs _ _ _ s := ⟨s, rfl, rfl⟩

/-- Sixteen usable pages from the address `start` on, and the records of the loader above them. -/
def smallRegions (start : UInt64) : List MemoryRegion :=
  [⟨start, 16, memoryUsable, 0⟩, ⟨start + 0x10000, 16, memoryLoaderReclaimable, 0⟩]

/-- The handoff for them. -/
def smallHandoff (start : UInt64) : BootHandoff where
  header := BootHandoffHeader.new
  memoryRegionsAddress := start + 0x11000
  memoryRegionCount := 2
  memoryRegionEntrySize := UInt32.ofNat regionSize
  framebuffer := Framebuffer.default

theorem usableFrames_small {start : UInt64} :
    usableFrames (smallRegions start) =
      ↑(Finset.Ico (frameNumber start) (frameNumber start + 16)) := by
  ext x
  have hkind : memoryLoaderReclaimable ≠ memoryUsable := by decide
  simp [usableFrames, smallRegions, hkind, Span.Has, Span.stop, MemoryRegion.span, pageSpan]

/-- A machine with memory from one megabyte on starts. -/
theorem scheduler_starts_above_zero :
    ∃ fa, (FrameAllocator.initializeRegions (smallRegions 0x100000)).run .new = (.ok (), fa) ∧
      ∃ pair fa' r0 r1,
        (constructAddressSpacePair framesBackend senderGeneration receiverGeneration).run fa =
          (.ok pair, fa') ∧
        pair.first.root = some r0 ∧ pair.second.root = some r1 ∧
        ∃ k, initialRuntime .cooperative r0 r1 = .ok k := by
  obtain ⟨fa, hinitialize, hstarts⟩ := scheduler_starts_iff framesBackend id framesBackend_backed
    .cooperative (smallHandoff 0x100000) 0x110000 0x111000 (smallRegions 0x100000) (by decide)
    (by rw [usableFrames_small, Set.ncard_coe_finset]; decide) .new
  obtain ⟨pair, fa', r0, r1, hrun, hroot₀, hroot₁, hiff⟩ := hstarts fa rfl
  refine ⟨fa, hinitialize, pair, fa', r0, r1, hrun, hroot₀, hroot₁, (hiff.mpr ?_).2⟩
  rw [usableFrames_small]
  decide

/-- The roots that a machine with memory from address zero on gives its two tasks. -/
def zeroRoots (kind : KernelRuntimeKind) : Option (Option UInt64 × Option UInt64) :=
  let fa := ((FrameAllocator.initializeRegions (smallRegions 0)).run .new).2
  let built := (constructAddressSpacePair framesBackend (generations kind).1
    (generations kind).2).run fa
  built.1.toOption.map fun pair => (pair.first.root, pair.second.root)

/-- A machine with memory from address zero on does not: the first root is zero, the first context
is not valid and the constructors refuse it. -/
theorem scheduler_refuses_zero :
    validateHandoff (smallHandoff 0) 0x10000 0x11000 (smallRegions 0) = .ok () ∧
      14 ≤ (usableFrames (smallRegions 0)).ncard ∧
      ∃ fa, (FrameAllocator.initializeRegions (smallRegions 0)).run .new = (.ok (), fa) ∧
        ∀ kind, ∃ pair fa' r1,
          (constructAddressSpacePair framesBackend (generations kind).1
            (generations kind).2).run fa = (.ok pair, fa') ∧
          pair.first.root = some 0 ∧ pair.second.root = some r1 ∧
          contextsValid kind 0 r1 = false ∧ ∃ e, initialRuntime kind 0 r1 = .error e := by
  refine ⟨by decide, ?_, _, run_eq_of_result (by decide +kernel), fun kind => ?_⟩
  · rw [usableFrames_small, Set.ncard_coe_finset]
    decide
  have hroots : zeroRoots kind = some (some 0, some 0x7000) := by
    cases kind <;> decide +kernel
  have hrefused : contextsValid kind 0 0x7000 = false ∧
      ∃ e, initialRuntime kind 0 0x7000 = .error e := by
    cases kind with
    | cooperative => exact ⟨by decide, .invalidGeneration, by decide +kernel⟩
    | supervised => exact ⟨by decide, .invalidGeneration, by decide +kernel⟩
    | journaled => exact ⟨by decide, .publicationFailure, by decide +kernel⟩
  obtain ⟨pair, hpair, hpairRoots⟩ := Option.map_eq_some_iff.mp hroots
  obtain ⟨hfirst, hsecond⟩ := Prod.mk.inj hpairRoots
  refine ⟨pair, _, 0x7000, run_eq_of_result ?_, hfirst, hsecond, hrefused⟩
  revert hpair
  cases hresult : ((constructAddressSpacePair framesBackend (generations kind).1
      (generations kind).2).run
        ((FrameAllocator.initializeRegions (smallRegions 0)).run .new).2).1 with
  | ok pair' =>
    intro hpair
    exact congrArg Except.ok (Option.some.inj hpair)
  | error e =>
    intro hpair
    exact nomatch hpair

end MakopaVerified.Driver
