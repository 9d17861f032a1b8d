import MakopaVerified.Frames.Proofs.FreeProofs
import MakopaVerified.Frames.Proofs.InitProofs

/-!
# The frame allocator refines the pool of frames

Every call of the allocator is answered by the pool, so what holds of every history of the pool
holds of every history of the allocator. The pool never hands out a frame that is out already.
-/

namespace MakopaVerified.Frames

open Foundation BootContract Method

variable {fa fa' : FrameAllocator} {pool pool' : FramePool} {e : AllocatorEvent}
  {history : List AllocatorEvent}

/-! ## The simulation -/

theorem new_stands : Stands .new (.full ∅) := by
  have hempty : ∀ v : Extents, ExtentsOk v 0 ∧ frames v 0 = ∅ := fun v =>
    ⟨⟨Nat.zero_le _, by simp [live], by simpa [live] using Spans.Canonical.nil⟩,
      frames_of_live_nil rfl⟩
  exact ⟨(hempty _).1, (hempty _).1, (hempty _).2, (hempty _).2⟩

theorem initialized_stands {regions : List MemoryRegion}
    (h : (FrameAllocator.initializeRegions regions).run fa = (.ok (), fa')) :
    Stands fa' (.full (usableFrames regions)) := by
  rcases initializeRegions_spec regions fa with ⟨err, hspec, -⟩ | ⟨fa₁, hspec, hok, hfew, rfl⟩
  · rw [hspec] at h
    cases h
  · rw [hspec, Prod.mk.injEq] at h
    obtain ⟨-, rfl⟩ := h
    exact (fill_exact fa hok hfew).1.stands

/-- Every call on an allocator that stands for a pool is a step of the pool. -/
theorem Stands.step (h : Stands fa pool) (hstep : fa.Does e fa') :
    ∃ pool', pool.Does e pool' ∧ Stands fa' pool' := by
  cases e with
  | initialized regions result =>
    have hrun : (FrameAllocator.initializeRegions regions).run fa = (result, fa') := hstep
    rcases initializeRegions_spec regions fa with ⟨err, hspec, -⟩ | ⟨fa₁, hspec, hok, hfew, rfl⟩
    · rw [hspec, Prod.mk.injEq] at hrun
      obtain ⟨rfl, rfl⟩ := hrun
      exact ⟨pool, .initializeFailed, h⟩
    · rw [hspec, Prod.mk.injEq] at hrun
      obtain ⟨rfl, rfl⟩ := hrun
      exact ⟨_, .initialized, initialized_stands hspec⟩
  | allocated result =>
    have hrun : FrameAllocator.allocateFrame.run fa = (result, fa') := hstep
    rcases FrameAllocator.allocateFrame_spec h with
      ⟨hempty, hspec⟩ | ⟨address, fa₁, hspec, haligned, hleast, hstands⟩
    · rw [hspec, Prod.mk.injEq] at hrun
      obtain ⟨rfl, rfl⟩ := hrun
      exact ⟨pool, .exhausted hempty, h⟩
    · rw [hspec, Prod.mk.injEq] at hrun
      obtain ⟨rfl, rfl⟩ := hrun
      exact ⟨_, .allocated haligned hleast, hstands⟩
  | freed address result =>
    have hrun : (FrameAllocator.freeFrame address).run fa = (result, fa') := hstep
    rcases FrameAllocator.freeFrame_spec h address with
      ⟨err, hrefusal, hspec⟩ | ⟨hm, fa₁, hrefusal, hspec, hstands⟩
    · rw [hspec, Prod.mk.injEq] at hrun
      obtain ⟨rfl, rfl⟩ := hrun
      exact ⟨pool, .refused hrefusal, h⟩
    · rw [hspec, Prod.mk.injEq] at hrun
      obtain ⟨rfl, rfl⟩ := hrun
      exact ⟨_, .freed hm hrefusal, hstands⟩

/-- Every history of the allocator is one of the pool. -/
theorem allocator_simulates (h : Run allocatorSystem history fa) :
    ∃ pool, Run poolSystem history pool ∧ Stands fa pool := by
  have hinit : ∀ s, allocatorSystem.init s → ∃ t, poolSystem.init t ∧ Stands s t := by
    rintro _ rfl
    exact ⟨_, rfl, new_stands⟩
  obtain ⟨pool, hrun, hstands⟩ := h.simulate poolSystem Stands id hinit
    fun _ _ _ _ hrel hstep => hrel.step hstep
  rw [List.map_id] at hrun
  exact ⟨pool, hrun, hstands⟩

/-! ## What is managed stays -/

/-- Only a start changes what is managed. -/
theorem FramePool.Does.managed_eq (h : pool.Does e pool') (hno : ¬ e.Restarts) :
    pool'.managed = pool.managed := by
  cases h with
  | initialized => exact absurd ⟨_, rfl⟩ hno
  | initializeFailed => rfl
  | allocated _ _ => rfl
  | exhausted _ => rfl
  | freed _ _ => rfl
  | refused _ => rfl

/-- Until the allocator is started afresh, it only hands out frames that it manages. -/
theorem Stands.handed_out {since : List AllocatorEvent} {address : UInt64} (h : Stands fa pool)
    (hsteps : Steps allocatorSystem fa since fa') (hno : ∀ e ∈ since, ¬ e.Restarts)
    (hmem : .allocated (.ok address) ∈ since) :
    address.toNat % 4096 = 0 ∧ frameNumber address ∈ pool.managed := by
  induction hsteps generalizing pool with
  | nil => cases hmem
  | cons hstep _ ih =>
    obtain ⟨hfirst, hrest⟩ := List.forall_mem_cons.mp hno
    obtain ⟨pool₁, hdoes, hstands⟩ := h.step hstep
    rcases List.mem_cons.mp hmem with rfl | hmem
    · cases hdoes with
      | allocated haligned hleast => exact ⟨haligned, pool.free_subset hleast.1⟩
    · rw [← hdoes.managed_eq hfirst]
      exact ih hstands hrest hmem

/-! ## No frame is handed out twice -/

/-- The event lets a frame be handed out again: it comes back, or the allocator starts afresh. -/
def AllocatorEvent.Renews (address : UInt64) (e : AllocatorEvent) : Prop :=
  e = .freed address (.ok ()) ∨ ∃ regions, e = .initialized regions (.ok ())

/-- A frame that was handed out and not renewed since is not free. -/
theorem pool_taken (h : Run poolSystem history pool) {before since : List AllocatorEvent}
    {address : UInt64} (hsplit : history = before ++ .allocated (.ok address) :: since)
    (hsince : ∀ e ∈ since, ¬ e.Renews address) :
    address.toNat % 4096 = 0 ∧ frameNumber address ∉ pool.free := by
  induction h generalizing since with
  | start _ => simp at hsplit
  | @step history s s' e hrun hstep ih =>
    rcases snoc_eq_append_cons hsplit with ⟨rfl, he, -⟩ | ⟨since', rfl, hsplit'⟩
    · subst he
      cases hstep with
      | allocated haligned _ => exact ⟨haligned, fun hmem => hmem.2 rfl⟩
    · obtain ⟨haligned, hnot⟩ := ih hsplit' fun e he => hsince e (List.mem_append_left _ he)
      have hlast := hsince e (by simp)
      refine ⟨haligned, ?_⟩
      cases hstep with
      | initialized => exact absurd (.inr ⟨_, rfl⟩) hlast
      | initializeFailed => exact hnot
      | allocated _ _ => exact fun hmem => hnot hmem.1
      | exhausted _ => exact hnot
      | @freed address' hm hrefusal =>
        intro hmem
        rcases Set.mem_insert_iff.mp hmem with hsame | hmem
        · -- only the address itself is an aligned address in its frame
          have haligned' : address'.toNat % 4096 = 0 := by
            by_contra hun
            unfold FramePool.refusal at hrefusal
            rw [if_pos hun] at hrefusal
            cases hrefusal
          refine hlast (.inl ?_)
          rw [(frameNumber_inj haligned haligned').mp hsame]
        · exact hnot hmem
      | refused _ => exact hnot

theorem pool_handout_fresh {before between : List AllocatorEvent} {address : UInt64}
    (h : Run poolSystem (before ++ .allocated (.ok address) :: between) pool)
    (hstep : pool.Does (.allocated (.ok address)) pool') :
    ∃ e ∈ between, e.Renews address := by
  by_contra hnone
  push Not at hnone
  cases hstep with
  | allocated _ hleast => exact (pool_taken h rfl hnone).2 hleast.1

/-! ## The refinement -/

open FrameAllocator in
/-- The frame allocator refines a set of free frames: after any calls, its extents stand for a pool,
and the next call does what the pool says. Between two handouts of one frame it came back, or the
allocator was started afresh. -/
theorem allocator_refines_pool (h : Run allocatorSystem history fa) :
    ∃ pool, Stands fa pool ∧ Run poolSystem history pool ∧
      (pool.free = ∅ → allocateFrame.run fa = (.error .exhausted, fa)) ∧
      (∀ x, IsLeast pool.free x → ∃ address fa', allocateFrame.run fa = (.ok address, fa') ∧
        address.toNat = x * 4096 ∧ Stands fa' (pool.take x)) ∧
      (∀ address e, pool.refusal address = some e →
        (freeFrame address).run fa = (.error e, fa)) ∧
      (∀ address, pool.refusal address = none →
        ∃ (hm : frameNumber address ∈ pool.managed) (fa' : FrameAllocator),
          (freeFrame address).run fa = (.ok (), fa') ∧
            Stands fa' (pool.put (frameNumber address) hm)) ∧
      ∀ before between after address,
        history = before ++ .allocated (.ok address) ::
          (between ++ .allocated (.ok address) :: after) →
        ∃ e ∈ between, e.Renews address := by
  obtain ⟨pool, hrun, hstands⟩ := allocator_simulates h
  refine ⟨pool, hstands, hrun, ?_, ?_, ?_, ?_, ?_⟩
  · intro hempty
    rcases allocateFrame_spec hstands with ⟨-, hspec⟩ | ⟨_, _, -, -, hleast, -⟩
    · exact hspec
    · rw [hempty] at hleast
      exact absurd hleast.1 (Set.notMem_empty _)
  · intro x hx
    rcases allocateFrame_spec hstands with
      ⟨hempty, -⟩ | ⟨address, fa', hspec, haligned, hleast, hstands'⟩
    · rw [hempty] at hx
      exact absurd hx.1 (Set.notMem_empty _)
    · obtain rfl := hleast.unique hx
      refine ⟨address, fa', hspec, ?_, hstands'⟩
      unfold frameNumber
      omega
  · intro address e hrefusal
    rcases freeFrame_spec hstands address with ⟨e', hrefusal', hspec⟩ | ⟨_, _, hnone, -, -⟩
    · rw [hrefusal] at hrefusal'
      cases hrefusal'
      exact hspec
    · rw [hrefusal] at hnone
      cases hnone
  · intro address hrefusal
    rcases freeFrame_spec hstands address with ⟨e', hsome, -⟩ | ⟨hm, fa', -, hspec, hstands'⟩
    · rw [hrefusal] at hsome
      cases hsome
    · exact ⟨hm, fa', hspec, hstands'⟩
  · intro before between after address hhistory
    have hrun' : Run poolSystem (((before ++ .allocated (.ok address) :: between) ++
        [.allocated (.ok address)]) ++ after) pool := by
      rw [hhistory] at hrun
      simpa using hrun
    obtain ⟨pool₂, hrun₂⟩ := hrun'.of_append
    obtain ⟨pool₁, hrun₁, hstep⟩ := hrun₂.of_append_singleton
    exact pool_handout_fresh hrun₁ hstep

/-- A single usable page at 4096. -/
def onePage : List MemoryRegion := [⟨4096, 1, memoryUsable, 0⟩]

/-- The allocator of this page. -/
def onePageAllocator : FrameAllocator := ((FrameAllocator.initializeRegions onePage).run .new).2

/-- The same with the page handed out. -/
def pageOut : FrameAllocator := (FrameAllocator.allocateFrame.run onePageAllocator).2

theorem pageOut_run : Run allocatorSystem
    [.initialized onePage (.ok ()), .allocated (.ok 4096)] pageOut := by
  have h₁ : allocatorSystem.step .new (.initialized onePage (.ok ())) onePageAllocator :=
    run_eq_of_result (by decide +kernel)
  have h₂ : allocatorSystem.step onePageAllocator (.allocated (.ok 4096)) pageOut :=
    run_eq_of_result (by decide +kernel)
  exact ((Run.start rfl).step h₁).step h₂

/-- The same after the page came back. -/
def pageBack : FrameAllocator := ((FrameAllocator.freeFrame 4096).run pageOut).2

theorem pageBack_run : Run allocatorSystem
    [.initialized onePage (.ok ()), .allocated (.ok 4096), .freed 4096 (.ok ())] pageBack := by
  have hfreed : allocatorSystem.step pageOut (.freed 4096 (.ok ())) pageBack :=
    run_eq_of_result (by decide +kernel)
  exact pageOut_run.step hfreed

/-- The page is handed out again, and does not come back twice. -/
theorem one_page_freed_and_refined :
    (∃ pool address fa', Stands pageBack pool ∧
      FrameAllocator.allocateFrame.run pageBack = (.ok address, fa') ∧ address.toNat = 4096 ∧
        Stands fa' (pool.take 1)) ∧
      (FrameAllocator.freeFrame 4096).run pageBack = (.error .duplicate, pageBack) := by
  obtain ⟨pool, hstands, -, -, hnext, hrefused, -⟩ := allocator_refines_pool pageBack_run
  have hlive : live pageBack.free pageBack.freeLen = [⟨4096, 1⟩] := by decide +kernel
  have hfree : pool.free = {1} := by
    rw [← hstands.free, frames, hlive]
    ext x
    rw [List.map_singleton, Spans.mem_points_cons, Spans.points_nil]
    show (1 ≤ x ∧ x < 1 + 1) ∨ x ∈ ∅ ↔ x = 1
    simp only [Set.mem_empty_iff_false, or_false]
    omega
  have hmem : frameNumber 4096 ∈ pool.free := by
    rw [hfree]
    rfl
  have hrefusal : pool.refusal 4096 = some .duplicate := by
    unfold FramePool.refusal
    rw [if_neg (by decide), if_neg (by decide), if_neg (not_not.mpr (pool.free_subset hmem)),
      if_pos hmem]
  obtain ⟨address, fa', hrun, haddress, htaken⟩ := hnext 1 (by rw [hfree]; exact isLeast_singleton)
  exact ⟨⟨pool, address, fa', hstands, hrun, haddress, htaken⟩, hrefused _ _ hrefusal⟩

/-- A second successful `initialize` makes a frame that is still out free again, so that the same
frame is handed out twice and never comes back. -/
theorem reinitialized_frame_handed_out_twice :
    ∃ fa, Run allocatorSystem [.initialized onePage (.ok ()), .allocated (.ok 4096),
      .initialized onePage (.ok ()), .allocated (.ok 4096)] fa := by
  have hagain : allocatorSystem.step pageOut (.initialized onePage (.ok ())) _ :=
    run_eq_of_result (by decide +kernel)
  have htwice : allocatorSystem.step _ (.allocated (.ok 4096)) _ :=
    run_eq_of_result (s := ((FrameAllocator.initializeRegions onePage).run pageOut).2)
      (by decide +kernel)
  exact ⟨_, (pageOut_run.step hagain).step htwice⟩

end MakopaVerified.Frames
