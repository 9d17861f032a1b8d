import MakopaVerified.Boot.Proofs.LoaderProofs

/-!
# The boot probe and the frames of a task pair

The probe of `kernel_entry` frees its first frame while the second is out, and the frames of a task
pair may come back first task first. Both leave one hole in the free set for a while, so they need
one extent more than the free set had at the start, and no more than that.
-/

namespace MakopaVerified.Boot

open Foundation BootContract Frames Method

variable {fa : FrameAllocator} {pool : FramePool}

/-- Seven frames are allocated for each of two tasks and come back task by task, each row in the
reverse order, with either task first. -/
def PairReturns (fa : FrameAllocator) : Prop :=
  ∃ first second fa₁ fa₂,
    (FrameAllocator.allocateFrames 7).run fa = (.ok first, fa₁) ∧
    (FrameAllocator.allocateFrames 7).run fa₁ = (.ok second, fa₂) ∧
    first.length = 7 ∧ second.length = 7 ∧
    ∀ row ∈ [first.reverse ++ second.reverse, second.reverse ++ first.reverse],
      ∃ fa', (FrameAllocator.freeFrames row).run fa₂ = (.ok (), fa') ∧
        live fa'.free fa'.freeLen = live fa.free fa.freeLen

theorem pair_returns (h : Stands fa pool) (hmany : 14 ≤ pool.free.ncard)
    (hfew : (Spans.runStarts pool.free).ncard < maxFrameExtents) : PairReturns fa := by
  have hfinite := h.finite_free
  obtain ⟨first, fa₁, middle, hrun₁, hlength₁, hhands₁, hstands₁⟩ :=
    h.allocates hfinite (show 7 ≤ _ by omega)
  have hleft := hhands₁.ncard_add_length hfinite
  obtain ⟨second, fa₂, pool', hrun₂, hlength₂, hhands₂, hstands₂⟩ :=
    hstands₁.allocates hstands₁.finite_free (show 7 ≤ _ by omega)
  refine ⟨first, second, fa₁, fa₂, hrun₁, hrun₂, hlength₁, hlength₂, ?_⟩
  have hfirst : ∃ fa', (FrameAllocator.freeFrames (first.reverse ++ second.reverse)).run fa₂ =
      (.ok (), fa') ∧ live fa'.free fa'.freeLen = live fa.free fa.freeLen := by
    obtain ⟨fa₃, hback, hfree₃, hstands₃⟩ := hstands₂.first_freed hhands₁ hhands₂ hfinite hfew
    obtain ⟨fa₄, hfree₄, hstands₄⟩ := hstands₃.second_freed hhands₁ hhands₂ hfinite hfew
    exact ⟨fa₄, run_freeFrames_append hfree₃ hfree₄, hstands₄.same_list h⟩
  have hsecond : ∃ fa', (FrameAllocator.freeFrames (second.reverse ++ first.reverse)).run fa₂ =
      (.ok (), fa') ∧ live fa'.free fa'.freeLen = live fa.free fa.freeLen := by
    obtain ⟨fa₃, hfree, hstands₃⟩ := hstands₂.row_freed (hhands₁.append hhands₂) hfinite hfew.le
    rw [List.reverse_append] at hfree
    exact ⟨fa₃, hfree, hstands₃.same_list h⟩
  simpa using ⟨hfirst, hsecond⟩

/-- A call that succeeds is not reported. -/
theorem run_orReport {ε α : Type} {report : KernelBootError} {call : Method FrameAllocator ε α}
    {fa' : FrameAllocator} {a : α} (h : call.run fa = (.ok a, fa')) :
    (orReport report call).run fa = (.ok a, fa') := by
  rw [orReport, run_onPart, id, h]

/-- With the first of two handouts free again and the second still out, the next handout is the
first one again. -/
theorem first_again {a b address : UInt64} {middle pool' : FramePool}
    (h : pool.Hands [a] middle) (h' : middle.Hands [b] pool')
    (hback : (pool.free \ middle.free) ∪ pool'.free ⊆ pool.managed)
    (haligned : address.toNat % 4096 = 0)
    (hleast : IsLeast ((pool.free \ middle.free) ∪ pool'.free) (frameNumber address)) :
    address = a ∧
      (pool.with ((pool.free \ middle.free) ∪ pool'.free) hback).take (frameNumber a) = pool' := by
  have ha : frameNumber a ∈ pool.free \ middle.free := h.mem_iff.mpr ⟨a, by simp, rfl⟩
  have hout : frameNumber a ∉ pool'.free := (h.append h').not_free (by simp)
  have hmanaged := h'.managed_eq.trans h.managed_eq
  have hone : pool.free \ middle.free = {frameNumber a} := by
    ext x
    rw [h.mem_iff]
    simp
  obtain ⟨c, d, hc, hd, hcd⟩ := h.bounds h'
  have hsub : pool'.free ⊆ pool.free := hd ▸ Set.inter_subset_left
  cases h with
  | cons haligned' hleast' _ =>
    refine ⟨(frameNumber_inj haligned haligned').mp (hleast.unique ⟨.inl ha, ?_⟩), ?_⟩
    · rintro x (hx | hx)
      · exact hleast'.2 hx.1
      · exact hleast'.2 (hsub hx)
    · obtain ⟨managed, free, hfree⟩ := pool'
      obtain rfl : managed = pool.managed := hmanaged
      unfold FramePool.with FramePool.take
      congr 1
      show ((pool.free \ middle.free) ∪ free) \ {frameNumber a} = free
      rw [hone, Set.union_sdiff_left]
      exact Set.sdiff_singleton_eq_self hout

/-- The probe gets its two frames, gets the first one again, and gives both back. -/
theorem probe_restores (h : Stands fa pool) (hmany : 2 ≤ pool.free.ncard)
    (hfew : (Spans.runStarts pool.free).ncard < maxFrameExtents) :
    ∃ fa', probeFrames.run fa = (.ok (), fa') ∧ Stands fa' pool := by
  have hfinite := h.finite_free
  obtain ⟨a, fa₁, hrun₁, hhands₁, hstands₁⟩ := h.allocates_one ((Set.ncard_pos hfinite).mp (by omega))
  have hleft := hhands₁.ncard_add_length hfinite
  rw [List.length_singleton] at hleft
  obtain ⟨b, fa₂, hrun₂, hhands₂, hstands₂⟩ :=
    hstands₁.allocates_one ((Set.ncard_pos hstands₁.finite_free).mp (by omega))
  have hne : b ≠ a := by
    rintro rfl
    cases hhands₂ with
    | cons _ hleast _ => exact hhands₁.not_free (by simp) hleast.1
  obtain ⟨fa₃, hback, hrow₃, hstands₃⟩ := hstands₂.first_freed hhands₁ hhands₂ hfinite hfew
  obtain ⟨_, hfree₃, hnil⟩ := run_freeFrames_cons.mp hrow₃
  obtain ⟨-, rfl⟩ := Prod.mk.inj hnil
  have hsome : frameNumber a ∈ pool.free \ (pool.take (frameNumber a)).free :=
    hhands₁.mem_iff.mpr ⟨a, by simp, rfl⟩
  obtain ⟨address, fa₄, hrun₄, hhands₄, hstands₄⟩ := hstands₃.allocates_one ⟨_, .inl hsome⟩
  obtain ⟨rfl, hpool⟩ : address = a ∧ _ := by
    cases hhands₄ with
    | cons haligned hleast _ => exact first_again hhands₁ hhands₂ hback haligned hleast
  rw [hpool] at hstands₄
  obtain ⟨fa₆, hrow, hstands₆⟩ := hstands₄.row_freed (hhands₁.append hhands₂) hfinite hfew.le
  obtain ⟨fa₅, hfree₅, hrow'⟩ := run_freeFrames_cons.mp hrow
  obtain ⟨_, hfree₆, hnil⟩ := run_freeFrames_cons.mp hrow'
  obtain ⟨-, rfl⟩ := Prod.mk.inj hnil
  refine ⟨_, ?_, hstands₆⟩
  rw [probeFrames, run_bind_ok (run_orReport hrun₁), run_bind_ok (run_orReport hrun₂),
    if_neg hne, run_bind_ok (run_orReport hfree₃), run_bind_ok (run_orReport hrun₄),
    if_neg (not_not.mpr rfl), run_bind_ok (run_orReport hfree₅)]
  exact run_orReport hfree₆

/-- The regions of the loader leave an extent to spare: one of them is not usable. -/
theorem loader_spares_extent {firmware : Firmware} {entered : Entered} {fa' : FrameAllocator}
    (hload : loadAndEnterKernel firmware = .ok entered)
    (hstarted : (FrameAllocator.initializeRegions entered.regions).run fa = (.ok (), fa')) :
    fa'.freeLen ≤ 1023 := by
  obtain ⟨kernelBytes, -, overrides, output, count, hprepared⟩ := prepared_of_entered hload
  obtain ⟨r, hr, hkind⟩ := hprepared.reserved_region
  have hruns := length_usableRuns_lt hr hkind
  rw [hprepared.length_regions] at hruns
  have hinitialized := initialize_ok hstarted
  obtain ⟨-, hcount, -⟩ := validateAndCountExtents_eq_ok.mp hinitialized.count
  have hmax : count ≤ 1024 := hprepared.count_le
  rw [hinitialized.freeLen, hcount]
  omega

/-- From every reachable allocator with at least fourteen free frames and an extent to spare, the
boot probe succeeds and the frames of a task pair are allocated and come back in either order,
before or after the probe. Every time the list of free extents is as it was. After the loader there is
an extent to spare. -/
theorem teardown_in_either_order :
    (∀ history fa, Run allocatorSystem history fa → 14 ≤ (frames fa.free fa.freeLen).ncard →
      fa.freeLen ≤ 1023 →
      PairReturns fa ∧ ∃ fa', probeFrames.run fa = (.ok (), fa') ∧
        live fa'.free fa'.freeLen = live fa.free fa.freeLen ∧ PairReturns fa') ∧
    ∀ firmware entered fa fa', loadAndEnterKernel firmware = .ok entered →
      (FrameAllocator.initializeRegions entered.regions).run fa = (.ok (), fa') →
      fa'.freeLen ≤ 1023 := by
  refine ⟨fun history fa hrun hmany hfew => ?_, fun _ _ _ _ => loader_spares_extent⟩
  obtain ⟨pool, -, hstands⟩ := allocator_simulates hrun
  rw [hstands.free] at hmany
  have hroom : (Spans.runStarts pool.free).ncard < maxFrameExtents := by
    rw [hstands.ncard_free]
    exact Nat.lt_succ_of_le hfew
  obtain ⟨fa', hprobe, hstands'⟩ := probe_restores hstands (by omega) hroom
  exact ⟨pair_returns hstands hmany hroom, fa', hprobe, hstands'.same_list hstands,
    pair_returns hstands' hmany hroom⟩

/-- Sixteen usable pages. -/
def sixteenPages : List MemoryRegion := [⟨0x100000, 16, memoryUsable, 0⟩]

theorem usableFrames_sixteen : usableFrames sixteenPages = ↑(Finset.Ico 256 272) := by
  ext x
  simp only [usableFrames, sixteenPages, List.mem_singleton, exists_eq_left, true_and,
    Set.mem_ofPred_eq, Finset.coe_Ico, Set.mem_Ico]
  exact Iff.rfl

/-- After a start on sixteen pages. -/
theorem sixteen_pages_torn_down :
    ∃ fa, Run allocatorSystem [.initialized sixteenPages (.ok ())] fa ∧
      PairReturns fa ∧ ∃ fa', probeFrames.run fa = (.ok (), fa') := by
  have hstarted : (FrameAllocator.initializeRegions sixteenPages).run .new = (.ok (), _) :=
    run_eq_of_result (by decide +kernel)
  have hrun : Run allocatorSystem [.initialized sixteenPages (.ok ())] _ :=
    (Run.start rfl).step hstarted
  obtain ⟨hpair, fa', hprobe, -⟩ := teardown_in_either_order.1 _ _ hrun
    (by rw [(initialized_stands hstarted).free]
        show 14 ≤ (usableFrames sixteenPages).ncard
        rw [usableFrames_sixteen, Set.ncard_coe_finset]
        decide)
    (by decide +kernel)
  exact ⟨_, hrun, hpair, fa', hprobe⟩

end MakopaVerified.Boot
