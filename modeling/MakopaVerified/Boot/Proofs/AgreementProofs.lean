import MakopaVerified.Boot.KernelEntry
import MakopaVerified.BootContract.Proofs.HandoffProofs
import MakopaVerified.BootContract.Proofs.NormalizeProofs
import MakopaVerified.Frames.Proofs.InitProofs

/-!
# The checkers of regions agree

`normalize_memory_regions`, `validate_handoff` and `FrameAllocator::initialize` each have a loop of
their own that decides whether a list of regions is well formed. All three mean `RegionsOk`; a list
of at most 1024 regions has at most that many runs of usable pages, so it can be managed.
-/

namespace MakopaVerified.Boot

open Foundation BootContract Frames

variable {regions : List MemoryRegion} {fa fa' : FrameAllocator}

/-- The number of runs, counted by the first pass. -/
theorem ncard_runs (h : RegionsOk regions) :
    (Spans.runStarts (usableFrames regions)).ncard = (usableRuns regions).length := by
  rw [← points_usableRuns, (canonical_usableRuns h).ncard_runStarts]

theorem manageable_iff :
    Manageable regions ↔ RegionsOk regions ∧ (usableRuns regions).length ≤ maxFrameExtents := by
  constructor
  · intro h
    exact ⟨h.toRegionsOk, ncard_runs h.toRegionsOk ▸ h.runs⟩
  · rintro ⟨hok, hfew⟩
    exact ⟨hok, (ncard_runs hok).trans_le hfew⟩

/-- A well formed list that is short enough can be managed. -/
theorem manageable_of_length (h : RegionsOk regions) (hlength : regions.length ≤ maxMemoryRegions) :
    Manageable regions :=
  manageable_iff.mpr ⟨h, length_usableRuns_le.trans hlength⟩

/-- `initialize` succeeds on the lists that can be managed. -/
theorem initialize_ok_iff :
    (∃ fa', (FrameAllocator.initializeRegions regions).run fa = (.ok (), fa')) ↔
      Manageable regions := by
  rw [manageable_iff]
  rcases initializeRegions_spec regions fa with ⟨e, hrun, hno⟩ | ⟨fa', hrun, hok, hfew, -⟩
  · refine ⟨?_, fun h => absurd h hno⟩
    rintro ⟨fa', hrun'⟩
    rw [hrun] at hrun'
    cases hrun'
  · exact ⟨fun _ => ⟨hok, hfew⟩, fun _ => ⟨fa', hrun⟩⟩

/-- What a successful `initialize` leaves. -/
theorem initialize_ok (hrun : (FrameAllocator.initializeRegions regions).run fa = (.ok (), fa')) :
    InitializedTo regions fa fa' := by
  rcases initializeRegions_spec regions fa with ⟨e, hrun', -⟩ | ⟨fa₁, hrun', hok, hfew, hfilled⟩
  · rw [hrun'] at hrun
    cases hrun
  · obtain rfl : fa₁ = fa' := by
      rw [hrun'] at hrun
      exact (Prod.mk.inj hrun).2
    obtain ⟨hfill, hbounds⟩ := fill_exact fa hok hfew
    rw [← hfilled] at hfill
    exact ⟨hfill.same, hfill.managedOk.canonical, by rw [hfill.runs, points_usableRuns],
      validateAndCountExtents_eq_ok.mpr ⟨hok, hfill.length_runs, hfill.length_runs ▸ hfew⟩,
      hfill.sameLen, hfilled, hbounds⟩

/-- A failed `initialize` leaves the allocator as it was. -/
theorem initialize_error {e : InitError}
    (hrun : (FrameAllocator.initializeRegions regions).run fa = (.error e, fa')) : fa' = fa := by
  rcases initializeRegions_spec regions fa with ⟨e', hrun', -⟩ | ⟨fa₁, hrun', -⟩
  · rw [hrun'] at hrun
    exact (Prod.mk.inj hrun).2.symm
  · rw [hrun'] at hrun
    cases hrun

/-- A list that `validate_handoff` accepts can be managed. -/
theorem manageable_of_handoff {handoff : BootHandoff} {handoffAddress regionsAddress : UInt64}
    (h : validateHandoff handoff handoffAddress regionsAddress regions = .ok ()) :
    Manageable regions := by
  have hok := validateHandoff_eq_ok.mp h
  exact manageable_of_length hok.regionsOk (hok.length.trans_le hok.header.count_le)

/-- So can the output of `normalize_memory_regions`. -/
theorem manageable_of_normalize {n len : Nat} {buffer buffer' : Vector MemoryRegion n}
    {sources : List SourceMemoryRegion} {overrides : List MemoryRegionOverride}
    (h : (normalizeMemoryRegions sources overrides).run buffer = (.ok len, buffer')) :
    Manageable (live buffer' len) := by
  obtain ⟨-, -, -, hlen, hcanonical⟩ := normalize_ok h
  refine manageable_of_length hcanonical.toRegionsOk ?_
  rw [length_live hlen]
  exact hlen.trans (normalize_buffer h)

/-- A call with a report fails with that report only. -/
theorem orReport_ends {ε α β : Type} {report : KernelBootError} {call : Method FrameAllocator ε α}
    {f : α → Method FrameAllocator KernelBootError β} {Q : β → FrameAllocator → Prop}
    {E : KernelBootError → FrameAllocator → Prop} (herror : ∀ fa, E report fa)
    (hrest : ∀ a fa', (f a).Ends fa' Q E) : (orReport report call >>= f).Ends fa Q E :=
  .bind (.onPart ⟨fun _ => hrest _ _, fun _ => herror _⟩)

theorem probeFrames_ends {β : Type} {f : Unit → Method FrameAllocator KernelBootError β}
    (hrest : ∀ fa', (f ()).Ends fa' (fun _ _ => True) fun e _ => e ≠ .frameAllocatorInit) :
    (probeFrames >>= f).Ends fa (fun _ _ => True) fun e _ => e ≠ .frameAllocatorInit := by
  refine .bind (orReport_ends (fun _ => nofun) fun frameA _ =>
    orReport_ends (fun _ => nofun) fun frameB _ => .ite (fun _ => .fail nofun) fun _ => ?_)
  refine orReport_ends (fun _ => nofun) fun _ _ => orReport_ends (fun _ => nofun) fun reused _ =>
    .ite (fun _ => .fail nofun) fun _ => ?_
  exact orReport_ends (fun _ => nofun) fun _ _ => .onPart ⟨fun _ => hrest _, fun _ => nofun⟩

/-- The kernel never reports that it cannot fill the allocator. -/
theorem kernelEntry_ends (memory : BootMemory) (handoffAddress : UInt64) :
    (kernelEntry memory handoffAddress).Ends fa (fun _ _ => True)
      fun e _ => e ≠ .frameAllocatorInit := by
  refine .ite (fun _ => .fail nofun) fun _ => ?_
  dsimp only
  split
  · exact .fail nofun
  split
  · exact .fail nofun
  · rename_i hvalid
    obtain ⟨fa', hrun⟩ : ∃ fa', (FrameAllocator.initializeRegions _).run fa = (.ok (), fa') :=
      initialize_ok_iff.mpr (manageable_of_handoff hvalid)
    exact .bind (.onPart (.of_ok hrun (probeFrames_ends fun _ => .pure trivial)))

/-- The three checkers agree, and `initialize` is exact. -/
theorem region_checkers_agree :
    (∀ handoff handoffAddress regionsAddress regions,
      validateHandoff handoff handoffAddress regionsAddress regions = .ok () →
        ∀ fa, ∃ fa', (FrameAllocator.initializeRegions regions).run fa = (.ok (), fa')) ∧
    (∀ memory handoffAddress fa,
      ((kernelEntry memory handoffAddress).run fa).1 ≠ .error .frameAllocatorInit) ∧
    (∀ (n : Nat) (sources : List SourceMemoryRegion) (overrides : List MemoryRegionOverride)
      (buffer buffer' : Vector MemoryRegion n) (len : Nat),
      (normalizeMemoryRegions sources overrides).run buffer = (.ok len, buffer') →
        validateRegionsFrom none none (live buffer' len) = .ok () ∧
          ∀ fa, ∃ fa', (FrameAllocator.initializeRegions (live buffer' len)).run fa = (.ok (), fa')) ∧
    ∀ regions fa,
      ((∃ fa', (FrameAllocator.initializeRegions regions).run fa = (.ok (), fa')) ↔
        Manageable regions) ∧
      (∀ fa', (FrameAllocator.initializeRegions regions).run fa = (.ok (), fa') →
        InitializedTo regions fa fa') ∧
      ∀ e fa', (FrameAllocator.initializeRegions regions).run fa = (.error e, fa') → fa' = fa := by
  refine ⟨?_, ?_, ?_, ?_⟩
  · intro handoff handoffAddress regionsAddress regions hvalid fa
    exact initialize_ok_iff.mpr (manageable_of_handoff hvalid)
  · intro memory handoffAddress fa herror
    exact (kernelEntry_ends memory handoffAddress).error (Method.run_eq_of_result herror) rfl
  · intro n sources overrides buffer buffer' len hrun
    have hmanageable := manageable_of_normalize hrun
    exact ⟨validateRegions_eq_ok.mpr hmanageable.toRegionsOk,
      fun fa => initialize_ok_iff.mpr hmanageable⟩
  · intro regions fa
    exact ⟨initialize_ok_iff, fun fa' => initialize_ok, fun e fa' => initialize_error⟩

/-- Two regions that touch become one extent, in a new allocator. -/
theorem region_checkers_agree_adjacent :
    ∃ fa', (FrameAllocator.initializeRegions
          [⟨0, 1, memoryReserved, 0⟩, ⟨0x1000, 2, memoryUsable, 0⟩, ⟨0x3000, 1, memoryUsable, 0⟩]).run
        .new = (.ok (), fa') ∧
      InitializedTo
        [⟨0, 1, memoryReserved, 0⟩, ⟨0x1000, 2, memoryUsable, 0⟩, ⟨0x3000, 1, memoryUsable, 0⟩]
        .new fa' := by
  have hchecked : validateRegionsFrom none none
      [⟨0, 1, memoryReserved, 0⟩, ⟨0x1000, 2, memoryUsable, 0⟩, ⟨0x3000, 1, memoryUsable, 0⟩] =
      .ok () := by decide
  have hmanageable := manageable_of_length (validateRegions_eq_ok.mp hchecked) (by decide)
  obtain ⟨hiff, hexact, -⟩ := region_checkers_agree.2.2.2
    [⟨0, 1, memoryReserved, 0⟩, ⟨0x1000, 2, memoryUsable, 0⟩, ⟨0x3000, 1, memoryUsable, 0⟩] .new
  obtain ⟨fa', hrun⟩ := hiff.mpr hmanageable
  exact ⟨fa', hrun, hexact fa' hrun⟩

end MakopaVerified.Boot
