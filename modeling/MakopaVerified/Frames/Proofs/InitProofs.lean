import MakopaVerified.BootContract.Proofs.RegionProofs
import MakopaVerified.Frames.Proofs.ExtentProofs

/-!
# `initialize`

The first pass accepts exactly the well formed lists of regions with few enough runs of usable
pages, and its count is the number of those runs. The second pass then fills both arrays with the
runs.
-/

namespace MakopaVerified.Frames

open Foundation BootContract Spans List

variable {done rest regions : List MemoryRegion} {r d : MemoryRegion}

/-! ## The runs of usable pages -/

theorem usableRuns_concat :
    usableRuns (done ++ [r]) =
      if r.kind = memoryUsable then Spans.join (usableRuns done) r.span else usableRuns done := by
  unfold usableRuns
  rw [foldl_append]
  rfl

/-- The runs stand for the usable frames. -/
theorem points_usableRuns : Spans.points (usableRuns regions) = usableFrames regions := by
  induction regions using List.reverseRecOn with
  | nil =>
    rw [show usableRuns [] = [] from rfl, points_nil]
    ext x
    simp [usableFrames]
  | append_singleton done r ih =>
    rw [usableRuns_concat]
    ext x
    have hlast : x ∈ usableFrames (done ++ [r]) ↔
        x ∈ usableFrames done ∨ (r.kind = memoryUsable ∧ r.span.Has x) := by
      simp only [usableFrames, Set.mem_ofPred_eq, mem_append, mem_singleton]
      constructor
      · rintro ⟨t, ht | rfl, hx⟩
        · exact .inl ⟨t, ht, hx⟩
        · exact .inr hx
      · rintro (⟨t, ht, hx⟩ | hx)
        · exact ⟨t, .inl ht, hx⟩
        · exact ⟨r, .inr rfl, hx⟩
    rw [hlast, ← ih]
    split
    · rename_i husable
      rw [points_join, Set.mem_union, mem_points_cons, points_nil]
      simp [husable]
    · rename_i husable
      simp [husable]

/-- A run stops where one of the usable regions does. -/
theorem exists_region_of_run {s : Span} (hs : s ∈ usableRuns regions) :
    ∃ r ∈ regions, r.kind = memoryUsable ∧ s.stop = r.span.stop := by
  induction regions using List.reverseRecOn generalizing s with
  | nil => cases hs
  | append_singleton done r ih =>
    rw [usableRuns_concat] at hs
    split at hs
    · rename_i husable
      rcases stop_join hs with ⟨t, ht, hstop⟩ | hstop
      · obtain ⟨d, hd, hkind, hstop'⟩ := ih ht
        exact ⟨d, mem_append_left _ hd, hkind, hstop.trans hstop'⟩
      · exact ⟨r, by simp, husable, hstop⟩
    · obtain ⟨d, hd, hkind, hstop⟩ := ih hs
      exact ⟨d, mem_append_left _ hd, hkind, hstop⟩

/-- There are no more runs than usable regions. -/
theorem length_usableRuns_le_filter :
    (usableRuns regions).length ≤ (regions.filter (·.kind = memoryUsable)).length := by
  induction regions using List.reverseRecOn with
  | nil => exact Nat.zero_le _
  | append_singleton done r ih =>
    rw [usableRuns_concat, filter_append, length_append]
    split
    · rename_i husable
      rw [filter_singleton, decide_eq_true husable]
      exact length_join_le.trans (Nat.succ_le_succ ih)
    · exact ih.trans (Nat.le_add_right _ _)

theorem length_usableRuns_le : (usableRuns regions).length ≤ regions.length :=
  length_usableRuns_le_filter.trans (length_filter_le _ _)

/-- With a region that is not usable there are fewer runs than regions. -/
theorem length_usableRuns_lt (hr : r ∈ regions) (hkind : r.kind ≠ memoryUsable) :
    (usableRuns regions).length < regions.length := by
  refine length_usableRuns_le_filter.trans_lt (length_filter_lt_length_iff_exists.mpr ?_)
  exact ⟨r, hr, by simpa using hkind⟩

theorem length_usableRuns_le_append :
    (usableRuns done).length ≤ (usableRuns (done ++ rest)).length := by
  induction rest using List.reverseRecOn with
  | nil => rw [append_nil]
  | append_singleton rest r ih =>
    rw [← append_assoc, usableRuns_concat]
    split
    · exact ih.trans length_le_join
    · exact ih

/-- The runs of a well formed list are canonical. -/
theorem canonical_usableRuns (h : RegionsOk regions) : Spans.Canonical (usableRuns regions) := by
  induction regions using List.reverseRecOn with
  | nil => exact Spans.Canonical.nil
  | append_singleton done r ih =>
    obtain ⟨hdone, hr, _, hlast⟩ := regionsOk_concat.mp h
    rw [usableRuns_concat]
    split
    · refine (ih hdone).join hr.nonempty fun t ht => ?_
      obtain ⟨d, hd, _, hstop⟩ := exists_region_of_run ht
      rw [hstop]
      exact hlast d hd
    · exact ih hdone

/-! ## The first pass -/

/-- The local variables of the first pass after the regions `done`. -/
def scanAfter (done : List MemoryRegion) : RegionScan where
  previousStart := lastStart done
  previousEnd := lastEnd done
  previousUsableEnd := (done.getLast?.filter (·.kind = memoryUsable)).bind regionEnd
  extentCount := (usableRuns done).length

theorem regionEnd_eq_some (h : PageRange r.physicalStart r.pageCount) {stop : UInt64} :
    regionEnd r = some stop ↔ stop.toNat = r.span.stop * 4096 := h.rangeEnd

/-- A usable region begins a new run, unless the region before it is usable and touches it. -/
theorem length_join_usableRuns (h : RegionsOk (done ++ [r])) :
    (Spans.join (usableRuns done) r.span).length =
      if (scanAfter done).previousUsableEnd ≠ some r.physicalStart then
        (usableRuns done).length + 1
      else (usableRuns done).length := by
  obtain ⟨hdone, hr, _, hlast⟩ := regionsOk_concat.mp h
  have hstart : r.physicalStart.toNat = r.span.first * 4096 := hr.start_eq
  by_cases htouch : (scanAfter done).previousUsableEnd = some r.physicalStart
  · rw [if_neg (not_not.mpr htouch)]
    unfold scanAfter at htouch
    obtain ⟨d, hd, hend⟩ := Option.bind_eq_some_iff.mp htouch
    obtain ⟨hlastd, hkind⟩ := Option.filter_eq_some_iff.mp hd
    obtain ⟨done, rfl⟩ := List.getLast?_eq_some_iff.mp hlastd
    have hdok := hdone.each d (by simp)
    have hstop := (regionEnd_eq_some hdok.toPageRange).mp hend
    obtain ⟨runs, t, hruns, ht⟩ := join_eq_concat (l := usableRuns done) (s := d.span)
    rw [usableRuns_concat, if_pos (by simpa using hkind), hruns, join_touching (by omega)]
    simp
  · rw [if_pos htouch, join_apart]
    · simp
    · intro t ht hcontra
      obtain ⟨d, hd, hkind, hstop⟩ := exists_region_of_run ht
      -- the region that touches must be the last one, and that one is usable
      rcases eq_nil_or_concat done with rfl | ⟨done, d', rfl⟩
      · cases hd
      rw [concat_eq_append] at *
      rcases mem_append.mp hd with hd | hd
      · have hbefore := (regionsOk_concat.mp hdone).2.2.2 d hd
        have hpos := hdone.span_pos (r := d') (by simp)
        have hafter := hlast d' (by simp)
        omega
      · obtain rfl := mem_singleton.mp hd
        refine htouch ?_
        unfold scanAfter
        rw [List.getLast?_concat, Option.filter_some, if_pos (by simpa using hkind),
          Option.bind_some, regionEnd_eq_some (hdone.each d (by simp)).toPageRange, hstart,
          ← hcontra, hstop]

theorem scanAfter_concat {stop : UInt64} (hstop : regionEnd r = some stop) :
    scanAfter (done ++ [r]) =
      { previousStart := some r.physicalStart
        previousEnd := some stop
        previousUsableEnd := if r.kind = memoryUsable then some stop else none
        extentCount := (usableRuns (done ++ [r])).length } := by
  have hend : lastEnd (done ++ [r]) = some stop := by
    unfold lastEnd
    rw [List.getLast?_concat]
    exact hstop
  unfold scanAfter
  rw [hend, lastStart, List.getLast?_concat, Option.filter_some]
  congr 1
  by_cases hkind : r.kind = memoryUsable
  · rw [if_pos (by simpa using hkind), if_pos hkind]
    exact hstop
  · rw [if_neg (by simpa using hkind), if_neg hkind]
    rfl

/-- The end of the loop body: the count is the number of runs. -/
theorem scan_count (h : RegionsOk (done ++ [r])) {stop : UInt64} (hstop : regionEnd r = some stop)
    {s : RegionScan} (hfew : (usableRuns done).length ≤ maxFrameExtents) :
    (scanAfter done).count r stop = .ok s ↔
      s = scanAfter (done ++ [r]) ∧ (usableRuns (done ++ [r])).length ≤ maxFrameExtents := by
  have hlength := length_join_usableRuns h
  unfold RegionScan.count
  rw [scanAfter_concat hstop, usableRuns_concat]
  dsimp only
  by_cases hkind : r.kind = memoryUsable
  · rw [if_pos hkind, if_pos hkind, hlength]
    by_cases hnew : (scanAfter done).previousUsableEnd ≠ some r.physicalStart
    · rw [if_pos ⟨hkind, hnew⟩, if_pos hnew]
      by_cases hfull : (scanAfter done).extentCount + 1 > maxFrameExtents
      · rw [if_pos hfull]
        simp only [reduceCtorEq, false_iff, not_and, Nat.not_le]
        exact fun _ => hfull
      · rw [if_neg hfull, Except.ok.injEq]
        have hroom : (usableRuns done).length + 1 ≤ maxFrameExtents := Nat.not_lt.mp hfull
        exact ⟨fun hs => ⟨hs.symm, hroom⟩, fun hs => hs.1.symm⟩
    · rw [if_neg fun hc => hnew hc.2, if_neg hnew, Except.ok.injEq]
      exact ⟨fun hs => ⟨hs.symm, hfew⟩, fun hs => hs.1.symm⟩
  · rw [if_neg fun hc => hkind hc.1, if_neg hkind, if_neg hkind, Except.ok.injEq]
    exact ⟨fun hs => ⟨hs.symm, hfew⟩, fun hs => hs.1.symm⟩

/-- What the loop body of the first pass accepts, and what it leaves. -/
theorem scan_step (h : RegionsOk done) {s : RegionScan}
    (hfew : (usableRuns done).length ≤ maxFrameExtents) :
    (scanAfter done).step r = .ok s ↔
      s = scanAfter (done ++ [r]) ∧ RegionsOk (done ++ [r]) ∧
        (usableRuns (done ++ [r])).length ≤ maxFrameExtents := by
  unfold RegionScan.step
  by_cases hzero : r.pageCount = 0
  · rw [if_pos hzero]
    refine ⟨nofun, fun hs => absurd (regionsOk_concat.mp hs.2.1).2.1.nonempty ?_⟩
    rw [hzero]
    exact Nat.lt_irrefl 0
  rw [if_neg hzero]
  by_cases haligned : r.physicalStart % pageSize = 0
  swap
  · rw [if_pos haligned]
    exact ⟨nofun, fun hs => absurd
      (mod_pageSize.mpr (regionsOk_concat.mp hs.2.1).2.1.aligned) haligned⟩
  rw [if_neg (not_not.mpr haligned)]
  by_cases hkind : isKnownMemoryKind r.kind = true
  swap
  · rw [if_pos hkind]
    exact ⟨nofun, fun hs => absurd (regionsOk_concat.mp hs.2.1).2.1.known hkind⟩
  rw [if_neg (not_not.mpr hkind)]
  by_cases hattributes : r.attributes = 0
  swap
  · rw [if_pos hattributes]
    exact ⟨nofun, fun hs => absurd (regionsOk_concat.mp hs.2.1).2.2.1 hattributes⟩
  rw [if_neg (not_not.mpr hattributes)]
  cases hstop : regionEnd r with
  | none =>
    refine ⟨nofun, fun hs => ?_⟩
    obtain ⟨stop, hend⟩ := (regionsOk_concat.mp hs.2.1).2.1.exists_rangeEnd
    rw [show regionEnd r = some stop from hend] at hstop
    cases hstop
  | some stop =>
    have hrange := pageRange_iff.mpr ⟨haligned, stop, hstop⟩
    have hordered := ordered_iff_last h hrange
    have hpages : 0 < r.pageCount.toNat := by
      refine Nat.pos_of_ne_zero fun hz => hzero ?_
      rw [← UInt64.toNat_inj, hz]
      rfl
    dsimp only
    rw [show (scanAfter done).previousStart = lastStart done from rfl,
      show (scanAfter done).previousEnd = lastEnd done from rfl]
    by_cases hlast : ∀ d ∈ done, d.span.stop ≤ r.span.first
    · have hok : RegionsOk (done ++ [r]) :=
        regionsOk_concat.mpr ⟨h, ⟨hrange, hkind, hpages⟩, hattributes, hlast⟩
      rw [if_neg (Bool.eq_false_iff.mp (hordered.mpr hlast).1),
        if_neg (Bool.eq_false_iff.mp (hordered.mpr hlast).2), scan_count hok hstop hfew]
      exact ⟨fun hs => ⟨hs.1, hok, hs.2⟩, fun hs => ⟨hs.1, hs.2.2⟩⟩
    · have hno : ¬ RegionsOk (done ++ [r]) := fun hok => hlast (regionsOk_concat.mp hok).2.2.2
      refine ⟨fun hrun => ?_, fun hs => absurd hs.2.1 hno⟩
      split at hrun
      · cases hrun
      · split at hrun
        · cases hrun
        · rename_i hstart hend
          exact absurd (hordered.mp ⟨Bool.eq_false_iff.mpr hstart, Bool.eq_false_iff.mpr hend⟩) hlast

/-- What the first pass accepts from the regions `done` on, and what it leaves. -/
theorem scan_run (h : RegionsOk done) {s : RegionScan}
    (hfew : (usableRuns done).length ≤ maxFrameExtents) :
    (scanAfter done).run rest = .ok s ↔
      s = scanAfter (done ++ rest) ∧ RegionsOk (done ++ rest) ∧
        (usableRuns (done ++ rest)).length ≤ maxFrameExtents := by
  induction rest generalizing done with
  | nil =>
    rw [RegionScan.run, append_nil, Except.ok.injEq]
    exact ⟨fun hs => ⟨hs.symm, h, hfew⟩, fun hs => hs.1.symm⟩
  | cons r rest ih =>
    rw [RegionScan.run, append_cons]
    cases hstep : (scanAfter done).step r with
    | error e =>
      refine ⟨nofun, fun hs => ?_⟩
      have hprefix := (scan_step h hfew).mpr
        ⟨rfl, hs.2.1.of_append, length_usableRuns_le_append.trans hs.2.2⟩
      rw [hstep] at hprefix
      cases hprefix
    | ok s' =>
      obtain ⟨rfl, hok, hfew'⟩ := (scan_step h hfew).mp hstep
      exact ih hok hfew'

/-- `validate_and_count_extents` accepts the well formed lists with few enough runs, and returns
the number of their runs. -/
theorem validateAndCountExtents_eq_ok {count : Nat} :
    validateAndCountExtents regions = .ok count ↔
      RegionsOk regions ∧ count = (usableRuns regions).length ∧ count ≤ maxFrameExtents := by
  have hrun : ∀ s, (scanAfter []).run regions = .ok s ↔ s = scanAfter regions ∧
      RegionsOk regions ∧ (usableRuns regions).length ≤ maxFrameExtents :=
    fun _ => scan_run regionsOk_nil (Nat.zero_le _)
  unfold validateAndCountExtents
  show (RegionScan.run (scanAfter []) regions).map _ = _ ↔ _
  cases hscan : RegionScan.run (scanAfter []) regions with
  | error e =>
    refine ⟨nofun, fun ⟨hok, hcount, hle⟩ => ?_⟩
    have hgood := (hrun (scanAfter regions)).mpr ⟨rfl, hok, hcount ▸ hle⟩
    rw [hscan] at hgood
    cases hgood
  | ok s =>
    obtain ⟨rfl, hok, hle⟩ := (hrun s).mp hscan
    show Except.ok (usableRuns regions).length = _ ↔ _
    rw [Except.ok.injEq]
    constructor
    · rintro rfl
      exact ⟨hok, rfl, hle⟩
    · rintro ⟨_, hcount, _⟩
      exact hcount.symm

/-! ## The second pass -/

/-- Both arrays hold the runs of the regions `done`. -/
structure Filled (done : List MemoryRegion) (fa : FrameAllocator) : Prop where
  managedOk : ExtentsOk fa.managed fa.managedLen
  freeOk : ExtentsOk fa.free fa.freeLen
  sameLen : fa.freeLen = fa.managedLen
  same : live fa.free fa.freeLen = live fa.managed fa.managedLen
  runs : (live fa.managed fa.managedLen).map Extent.span = usableRuns done

variable {fa : FrameAllocator} {extents extents' : Extents} {len : Nat} {e : Extent}

theorem Filled.length_runs (h : Filled done fa) : fa.managedLen = (usableRuns done).length := by
  rw [← h.runs, length_map, length_extents h.managedOk]

/-- Arrays with the right runs and no overflow are filled. -/
theorem Filled.of_live {l : List Extent} (hok : RegionsOk done)
    (hlen : fa.managedLen ≤ maxFrameExtents) (hsame : fa.freeLen = fa.managedLen)
    (hmanaged : live fa.managed fa.managedLen = l) (hfree : live fa.free fa.freeLen = l)
    (hruns : l.map Extent.span = usableRuns done)
    (hfits : ∀ e ∈ l, PageRange e.physicalStart e.pageCount) : Filled done fa := by
  have hcanonical := canonical_usableRuns hok
  rw [← hruns] at hcanonical
  exact ⟨⟨hlen, by rw [hmanaged]; exact hfits, by rw [hmanaged]; exact hcanonical⟩,
    ⟨hsame ▸ hlen, by rw [hfree]; exact hfits, by rw [hfree]; exact hcanonical⟩, hsame,
    hfree.trans hmanaged.symm, by rw [hmanaged]; exact hruns⟩

/-- The last extent is the one at the index before the length. -/
theorem Filled.exists_last (h : Filled done fa) (hne : fa.managedLen ≠ 0) :
    ∃ before e, live fa.managed fa.managedLen = before ++ [e] ∧
      fa.managedLen - 1 = before.length := by
  have hlen := length_extents h.managedOk
  rcases eq_nil_or_concat (live fa.managed fa.managedLen) with hnil | ⟨before, e, hlive⟩
  · rw [hnil] at hlen
    exact absurd hlen.symm hne
  · rw [concat_eq_append] at hlive
    rw [hlive, length_append, length_singleton] at hlen
    exact ⟨before, e, hlive, by omega⟩

/-- The region touches the last extent: the extent grows by the pages of the region. -/
theorem grown_extent (he : PageRange e.physicalStart e.pageCount)
    (hr : PageRange r.physicalStart r.pageCount) (htouch : e.span.stop = r.span.first) :
    PageRange e.physicalStart (e.pageCount + r.pageCount) ∧
      Extent.span ⟨e.physicalStart, e.pageCount + r.pageCount⟩ =
        ⟨e.span.first, e.span.size + r.span.size⟩ := by
  have hstart := start_toNat he
  have hrstart : r.physicalStart.toNat = r.span.first * 4096 := hr.start_eq
  have hinside := hr.inside
  have hsize := pageCount_toNat (e := e)
  unfold Span.stop at htouch
  have hsum : (e.pageCount + r.pageCount).toNat = e.pageCount.toNat + r.pageCount.toNat :=
    toNat_add_of_lt (by omega)
  have hend : e.span.first * 4096 + (e.pageCount + r.pageCount).toNat * 4096 < 2 ^ 64 := by
    rw [hsum]
    omega
  obtain ⟨hfits, hspan⟩ := pageRange_of_span hstart hend
  rw [hsum] at hspan
  exact ⟨hfits, hspan⟩

theorem fill_merge (h : Filled done fa) (hok : RegionsOk (done ++ [r]))
    (hkind : r.kind = memoryUsable)
    (hmerge : fa.managedLen ≠ 0 ∧
      (extentAt fa.managed (fa.managedLen - 1)).endAddress = some r.physicalStart) :
    Filled (done ++ [r]) (fa.fill r) := by
  obtain ⟨-, hr, -, -⟩ := regionsOk_concat.mp hok
  obtain ⟨before, e, hlive, hindex⟩ := h.exists_last hmerge.1
  have hfree : live fa.free fa.freeLen = before ++ [e] := h.same.trans hlive
  have he := h.managedOk.fits e (by rw [hlive]; simp)
  have htouch : e.span.stop = r.span.first := by
    have hend := hmerge.2
    have hrstart : r.physicalStart.toNat = r.span.first * 4096 := hr.start_eq
    rw [hindex, extentAt_middle h.managedOk hlive, endAddress_eq_some he] at hend
    omega
  obtain ⟨hfits, hspan⟩ := grown_extent he hr.toPageRange htouch
  have hfill : fa.fill r =
      { fa with
        managed := modifyExtent fa.managed before.length fun e =>
          { e with pageCount := e.pageCount + r.pageCount }
        free := modifyExtent fa.free before.length fun e =>
          { e with pageCount := e.pageCount + r.pageCount } } := by
    unfold FrameAllocator.fill
    rw [if_neg (not_not.mpr hkind), if_pos hmerge, hindex]
  rw [hfill]
  refine .of_live hok h.managedOk.len_le h.sameLen (live_modifyExtent h.managedOk hlive _)
    (live_modifyExtent h.freeOk hfree _) ?_ ?_
  · rw [usableRuns_concat, if_pos hkind, ← h.runs, hlive, map_append, map_append,
      map_singleton, map_singleton, hspan, join_touching htouch]
  · intro m hm
    rcases mem_append.mp hm with hm | hm
    · exact h.managedOk.fits m (by rw [hlive]; exact mem_append_left _ hm)
    · obtain rfl := mem_singleton.mp hm
      exact hfits

theorem fill_push (h : Filled done fa) (hok : RegionsOk (done ++ [r]))
    (hkind : r.kind = memoryUsable)
    (hnew : ¬ (fa.managedLen ≠ 0 ∧
      (extentAt fa.managed (fa.managedLen - 1)).endAddress = some r.physicalStart))
    (hfew : (usableRuns (done ++ [r])).length ≤ maxFrameExtents) :
    fa.managedLen < maxFrameExtents ∧ Filled (done ++ [r]) (fa.fill r) := by
  obtain ⟨-, hr, -, -⟩ := regionsOk_concat.mp hok
  have hjoin : usableRuns (done ++ [r]) = usableRuns done ++ [r.span] := by
    rw [usableRuns_concat, if_pos hkind, ← h.runs]
    by_cases hne : fa.managedLen = 0
    · have hnil : live fa.managed fa.managedLen = [] :=
        length_eq_zero_iff.mp ((length_extents h.managedOk).trans hne)
      rw [hnil]
      rfl
    · obtain ⟨before, e, hlive, hindex⟩ := h.exists_last hne
      rw [hlive, map_append, map_singleton]
      refine join_gap fun htouch => hnew ⟨hne, ?_⟩
      have he := h.managedOk.fits e (by rw [hlive]; simp)
      rw [hindex, extentAt_middle h.managedOk hlive, endAddress_eq_some he, htouch]
      exact hr.start_eq
  have hroom : fa.managedLen < maxFrameExtents := by
    rw [hjoin, length_append, length_singleton, ← h.length_runs] at hfew
    omega
  have hfill : fa.fill r =
      { managed := fa.managed.setIfInBounds fa.managedLen ⟨r.physicalStart, r.pageCount⟩
        managedLen := fa.managedLen + 1
        free := fa.free.setIfInBounds fa.freeLen ⟨r.physicalStart, r.pageCount⟩
        freeLen := fa.freeLen + 1 } := by
    unfold FrameAllocator.fill
    rw [if_neg (not_not.mpr hkind), if_neg hnew]
  refine ⟨hroom, ?_⟩
  rw [hfill]
  refine .of_live hok hroom (congrArg (· + 1) h.sameLen) (live_push hroom)
    ((live_push (h.sameLen ▸ hroom)).trans (congrArg (· ++ _) h.same)) ?_ ?_
  · rw [hjoin, ← h.runs, map_append]
    rfl
  · intro m hm
    rcases mem_append.mp hm with hm | hm
    · exact h.managedOk.fits m hm
    · obtain rfl := mem_singleton.mp hm
      exact hr.toPageRange

/-- One pass of the filling loop, on a list that the first pass has accepted. -/
theorem fill_step (h : Filled done fa) (hok : RegionsOk (done ++ [r]))
    (hfew : (usableRuns (done ++ [r])).length ≤ maxFrameExtents) :
    FillInBounds fa r ∧ Filled (done ++ [r]) (fa.fill r) := by
  by_cases hkind : r.kind = memoryUsable
  · by_cases hmerge : fa.managedLen ≠ 0 ∧
        (extentAt fa.managed (fa.managedLen - 1)).endAddress = some r.physicalStart
    · have hle := h.managedOk.len_le
      exact ⟨fun _ => .inl ⟨hmerge.1, hmerge.2, by omega⟩, fill_merge h hok hkind hmerge⟩
    · obtain ⟨hroom, hfilled⟩ := fill_push h hok hkind hmerge hfew
      exact ⟨fun _ => .inr ⟨hroom, h.sameLen ▸ hroom⟩, hfilled⟩
  · refine ⟨fun hc => absurd hc hkind, ?_⟩
    have hfill : fa.fill r = fa := by
      unfold FrameAllocator.fill
      rw [if_pos hkind]
    rw [hfill]
    exact ⟨h.managedOk, h.freeOk, h.sameLen, h.same,
      by rw [usableRuns_concat, if_neg hkind]; exact h.runs⟩

/-- The filling loop, on a list that the first pass has accepted. -/
theorem fill_exact (fa : FrameAllocator) (hok : RegionsOk regions)
    (hfew : (usableRuns regions).length ≤ maxFrameExtents) :
    Filled regions
        (regions.foldl FrameAllocator.fill { fa with managedLen := 0, freeLen := 0 }) ∧
      ∀ done r rest, regions = done ++ r :: rest →
        FillInBounds (done.foldl FrameAllocator.fill { fa with managedLen := 0, freeLen := 0 })
          r := by
  induction regions using List.reverseRecOn with
  | nil =>
    have hempty : ∀ v : Extents, live v 0 = [] := fun v => rfl
    refine ⟨.of_live regionsOk_nil (Nat.zero_le _) rfl (hempty _) (hempty _) rfl (by simp), ?_⟩
    intro done r rest hsplit
    cases done <;> cases hsplit
  | append_singleton done r ih =>
    obtain ⟨hfilled, hbounds⟩ := ih hok.of_append (length_usableRuns_le_append.trans hfew)
    obtain ⟨hbound, hfilled'⟩ := fill_step hfilled hok hfew
    refine ⟨by rw [foldl_append]; exact hfilled', ?_⟩
    intro before r' rest hsplit
    rcases snoc_eq_append_cons hsplit with ⟨-, rfl, rfl⟩ | ⟨rest', -, hsplit'⟩
    · exact hbound
    · exact hbounds before r' rest' hsplit'

/-- Arrays that hold the runs stand for the full pool. -/
theorem Filled.stands (h : Filled regions fa) : Stands fa (.full (usableFrames regions)) := by
  have hframes : frames fa.managed fa.managedLen = usableFrames regions := by
    rw [frames, h.runs, points_usableRuns]
  refine ⟨h.managedOk, h.freeOk, hframes, ?_⟩
  rw [frames, h.same]
  exact hframes

/-- `initialize` fills the allocator with the usable frames, or fails and changes nothing. -/
theorem initializeRegions_spec (regions : List MemoryRegion) (fa : FrameAllocator) :
    (∃ e, (FrameAllocator.initializeRegions regions).run fa = (.error e, fa) ∧
        ¬ (RegionsOk regions ∧ (usableRuns regions).length ≤ maxFrameExtents)) ∨
      ∃ fa', (FrameAllocator.initializeRegions regions).run fa = (.ok (), fa') ∧
        RegionsOk regions ∧ (usableRuns regions).length ≤ maxFrameExtents ∧
        fa' = regions.foldl FrameAllocator.fill { fa with managedLen := 0, freeLen := 0 } := by
  unfold FrameAllocator.initializeRegions
  cases hscan : validateAndCountExtents regions with
  | error e =>
    refine .inl ⟨e, rfl, fun ⟨hok, hfew⟩ => ?_⟩
    rw [validateAndCountExtents_eq_ok.mpr ⟨hok, rfl, hfew⟩] at hscan
    cases hscan
  | ok count =>
    obtain ⟨hok, rfl, hfew⟩ := validateAndCountExtents_eq_ok.mp hscan
    exact .inr ⟨_, rfl, hok, hfew, rfl⟩

end MakopaVerified.Frames
