import MakopaVerified.Frames.Pool

/-!
# Extents as spans of page frames

What the functions on a single extent compute, and what reading and writing an entry of an array of
extents means for the list of the extents in use.
-/

namespace MakopaVerified.Frames

open Foundation BootContract Method List

variable {extents extents' : Extents} {len len' i x : Nat} {e m : Extent} {p q : UInt64}
  {before after : List Extent}

/-! ## A single extent -/

theorem endAddress_eq_some (h : PageRange e.physicalStart e.pageCount) :
    e.endAddress = some p ↔ p.toNat = e.span.stop * 4096 := h.rangeEnd

theorem start_toNat (h : PageRange e.physicalStart e.pageCount) :
    e.physicalStart.toNat = e.span.first * 4096 := h.start_eq

theorem pageCount_toNat : e.pageCount.toNat = e.span.size := rfl

/-- The frame test of an extent is membership in its span. -/
theorem containsFrame_iff (h : PageRange e.physicalStart e.pageCount) (hp : p.toNat = x * 4096)
    (hq : q.toNat = p.toNat + 4096) : e.containsFrame p q = true ↔ e.span.Has x := by
  obtain ⟨stop, hstop⟩ := h.exists_rangeEnd
  have hstart := start_toNat h
  have hend := (endAddress_eq_some h).mp hstop
  unfold Extent.containsFrame
  rw [show e.endAddress = some stop from hstop, Option.any_some, Bool.and_eq_true,
    decide_eq_true_eq, decide_eq_true_eq, UInt64.le_iff_toNat_le, UInt64.le_iff_toNat_le]
  unfold Span.Has
  omega

/-- An extent that starts at the frame `x` and stops at an address. -/
theorem pageRange_of_span {pages : UInt64} (hp : p.toNat = x * 4096)
    (hinside : x * 4096 + pages.toNat * 4096 < 2 ^ 64) :
    PageRange p pages ∧ Extent.span ⟨p, pages⟩ = ⟨x, pages.toNat⟩ := by
  refine ⟨⟨by omega, by omega⟩, ?_⟩
  show (⟨p.toNat / 4096, pages.toNat⟩ : Span) = _
  congr 1
  omega

/-! ## The extents in use -/

theorem getElem?_extents (h : ExtentsOk extents len) (hi : i < len) :
    (live extents len)[i]? = some (extentAt extents i) := by
  have hlt : i < maxFrameExtents := lt_of_lt_of_le hi h.len_le
  rw [getElem?_live, if_pos hi]
  unfold extentAt
  rw [Vector.getElem?_eq_getElem hlt, Option.getD_some]

theorem extentAt_mem (h : ExtentsOk extents len) (hi : i < len) :
    extentAt extents i ∈ live extents len :=
  mem_of_getElem? (getElem?_extents h hi)

theorem length_extents (h : ExtentsOk extents len) : (live extents len).length = len :=
  length_live h.len_le

/-- The extent between `before` and the rest. -/
theorem extentAt_middle (h : ExtentsOk extents len)
    (hsplit : live extents len = before ++ e :: after) : extentAt extents before.length = e := by
  have hlen := length_extents h
  rw [hsplit] at hlen
  have hi : before.length < len := by
    simp at hlen
    omega
  have hget := getElem?_extents h hi
  rw [hsplit] at hget
  simpa [eq_comm] using hget

/-- The first extent and the others. -/
theorem live_eq_cons (h : ExtentsOk extents len) (hne : len ≠ 0) :
    ∃ rest, live extents len = extentAt extents 0 :: rest := by
  have hfirst := getElem?_extents h (Nat.pos_of_ne_zero hne)
  cases hlive : live extents len with
  | nil =>
    rw [hlive] at hfirst
    cases hfirst
  | cons e rest =>
    rw [hlive, List.getElem?_cons_zero, Option.some.injEq] at hfirst
    exact ⟨rest, by rw [hfirst]⟩

theorem mem_frames : x ∈ frames extents len ↔ ∃ e ∈ live extents len, e.span.Has x := by
  unfold frames
  simp only [Spans.mem_points, mem_map, exists_exists_and_eq_and]

theorem frames_eq_empty_iff (h : ExtentsOk extents len) : frames extents len = ∅ ↔ len = 0 := by
  unfold frames
  rw [h.canonical.points_eq_empty_iff, map_eq_nil_iff, ← length_eq_zero_iff,
    length_extents h]

theorem ncard_runStarts_frames (h : ExtentsOk extents len) :
    (Spans.runStarts (frames extents len)).ncard = len := by
  unfold frames
  rw [h.canonical.ncard_runStarts, length_map, length_extents h]

theorem frames_of_live_nil (h : live extents len = []) : frames extents len = ∅ := by
  unfold frames
  rw [h]
  exact Spans.points_nil

/-- The extents in use are in order, so the ones after a split start after the ones before it. -/
theorem ExtentsOk.split (h : ExtentsOk extents len) (hsplit : live extents len = before ++ after) :
    ∀ e ∈ before, ∀ m ∈ after, e.span.stop < m.span.first := by
  intro e he m hm
  have hcanonical := h.canonical
  rw [hsplit, map_append] at hcanonical
  exact hcanonical.before_after _ (mem_map_of_mem he) _ (mem_map_of_mem hm)

theorem ExtentsOk.size_pos (h : ExtentsOk extents len) (he : e ∈ live extents len) :
    0 < e.span.size := h.canonical.nonempty _ (mem_map_of_mem he)

/-- Neighbours that give way to one extent, which covers them and the frame `x`. -/
theorem ExtentsOk.replace (h : ExtentsOk extents len) {middle : List Extent}
    (hsplit : live extents len = before ++ (middle ++ after))
    (hlive : live extents' len' = before ++ m :: after) (hlen : len' ≤ maxFrameExtents)
    (hfits : PageRange m.physicalStart m.pageCount)
    (hcovers : ∀ y, m.span.Has y ↔ y = x ∨ ∃ e ∈ middle, e.span.Has y)
    (hleft : ∀ e ∈ before, e.span.stop < m.span.first)
    (hright : ∀ e ∈ after, m.span.stop < e.span.first) :
    ExtentsOk extents' len' ∧ frames extents' len' = insert x (frames extents len) := by
  have hcanonical := h.canonical
  rw [hsplit, map_append, map_append] at hcanonical
  have hreplaced := hcanonical.replace
    (show ∀ y, m.span.Has y ↔ y = x ∨ y ∈ Spans.points (middle.map Extent.span) by
      simpa only [Spans.mem_points, mem_map, exists_exists_and_eq_and] using hcovers)
    (by simpa using hleft) (by simpa using hright)
  refine ⟨⟨hlen, ?_, ?_⟩, ?_⟩
  · intro e he
    rw [hlive, mem_append, mem_cons] at he
    rcases he with he | rfl | he
    · exact h.fits e (by rw [hsplit]; exact mem_append_left _ he)
    · exact hfits
    · exact h.fits e (by
        rw [hsplit]
        exact mem_append_right _ (mem_append_right _ he))
  · rw [hlive, map_append, map_cons]
    exact hreplaced.1
  · unfold frames
    rw [hlive, hsplit, map_append, map_cons, map_append, map_append]
    exact hreplaced.2

/-- Writing the entry between `before` and `after`. -/
theorem live_modifyExtent (h : ExtentsOk extents len)
    (hsplit : live extents len = before ++ e :: after) (f : Extent → Extent) :
    live (modifyExtent extents before.length f) len = before ++ f e :: after := by
  have hlen := length_extents h
  rw [hsplit, length_append, length_cons] at hlen
  unfold modifyExtent
  rw [live_set (by omega) h.len_le, extentAt_middle h hsplit, hsplit]
  simp

/-! ## `allocate_frame` -/

namespace FrameAllocator

variable {fa : FrameAllocator} {pool : FramePool}

/-- Taking the last frame of the first extent. -/
theorem removeFirst_stands (h : Stands fa pool) (hne : fa.freeLen ≠ 0)
    (hone : (extentAt fa.free 0).pageCount = 1) :
    Stands (removeFreeExtent 0 fa) (pool.take (extentAt fa.free 0).span.first) := by
  obtain ⟨rest, hlive⟩ := live_eq_cons h.freeOk hne
  generalize he : extentAt fa.free 0 = e at hlive hone ⊢
  have hlive' : live (removeFreeExtent 0 fa).free (removeFreeExtent 0 fa).freeLen = rest := by
    unfold removeFreeExtent
    dsimp only
    rw [live_shiftDown (by omega) h.freeOk.len_le, hlive]
    rfl
  have hcanonical := h.freeOk.canonical
  have hlen := h.freeOk.len_le
  rw [hlive, map_cons] at hcanonical
  refine ⟨h.managedOk, ⟨?_, ?_, ?_⟩, h.managed, ?_⟩
  · show fa.freeLen - 1 ≤ _
    omega
  · intro m hm
    rw [hlive'] at hm
    exact h.freeOk.fits m (by rw [hlive]; exact mem_cons_of_mem _ hm)
  · rw [hlive']
    exact hcanonical.tail
  · rw [frames, hlive']
    show _ = pool.free \ {e.span.first}
    rw [← h.free, frames, hlive, map_cons]
    exact hcanonical.points_tail (by rw [← pageCount_toNat, hone]; rfl)

/-- Taking the first of several frames of the first extent. -/
theorem shrinkFirst_stands (h : Stands fa pool) (hne : fa.freeLen ≠ 0)
    (hmore : (extentAt fa.free 0).pageCount ≠ 1) {next : UInt64}
    (hnext : next.toNat = (extentAt fa.free 0).physicalStart.toNat + 4096) :
    Stands { fa with free := modifyExtent fa.free 0 fun e => ⟨next, e.pageCount - 1⟩ }
      (pool.take (extentAt fa.free 0).span.first) := by
  obtain ⟨rest, hlive⟩ := live_eq_cons h.freeOk hne
  generalize he : extentAt fa.free 0 = e at hlive hmore hnext ⊢
  have hmem : e ∈ live fa.free fa.freeLen := by rw [hlive]; exact mem_cons_self
  have hfits := h.freeOk.fits e hmem
  have hinside := hfits.inside
  have hpos := h.freeOk.size_pos hmem
  have hstart := start_toNat hfits
  rw [← pageCount_toNat] at hpos
  have hpages : (e.pageCount - 1).toNat = e.pageCount.toNat - 1 :=
    UInt64.toNat_sub_of_le _ _ (UInt64.le_iff_toNat_le.mpr hpos)
  have hmany : 1 < e.pageCount.toNat := by
    have hne1 : e.pageCount.toNat ≠ 1 := fun h1 => hmore (UInt64.toNat_inj.mp h1)
    omega
  have hnext' : next.toNat = (e.span.first + 1) * 4096 := by omega
  have hroom : (e.span.first + 1) * 4096 + (e.pageCount - 1).toNat * 4096 < 2 ^ 64 := by omega
  obtain ⟨hfits', hspan'⟩ := pageRange_of_span hnext' hroom
  have hspan : Extent.span ⟨next, e.pageCount - 1⟩ = ⟨e.span.first + 1, e.span.size - 1⟩ := by
    rw [← pageCount_toNat (e := e), ← hpages]
    exact hspan'
  have hlive' : live (modifyExtent fa.free 0 fun e => ⟨next, e.pageCount - 1⟩) fa.freeLen =
      ⟨next, e.pageCount - 1⟩ :: rest := by
    unfold modifyExtent
    rw [live_set (by omega) h.freeOk.len_le, hlive, he]
    rfl
  have hcanonical := h.freeOk.canonical
  rw [hlive, map_cons] at hcanonical
  have hshrunk := hcanonical.shrink hmany
  rw [← hspan] at hshrunk
  refine ⟨h.managedOk, ⟨h.freeOk.len_le, ?_, ?_⟩, h.managed, ?_⟩
  · intro m hm
    rw [hlive'] at hm
    rcases mem_cons.mp hm with rfl | hm
    · exact hfits'
    · exact h.freeOk.fits m (by rw [hlive]; exact mem_cons_of_mem _ hm)
  · rw [hlive', map_cons]
    exact hshrunk.1
  · show frames _ _ = pool.free \ {e.span.first}
    rw [frames, hlive', map_cons, hshrunk.2, ← h.free, frames, hlive, map_cons]

/-- `allocate_frame` hands out the least free frame, and nothing exactly when none is free. -/
theorem allocateFrame_spec (h : Stands fa pool) :
    (pool.free = ∅ ∧ allocateFrame.run fa = (.error .exhausted, fa)) ∨
      ∃ address fa', allocateFrame.run fa = (.ok address, fa') ∧ address.toNat % 4096 = 0 ∧
        IsLeast pool.free (frameNumber address) ∧
        Stands fa' (pool.take (frameNumber address)) := by
  by_cases hempty : fa.freeLen = 0
  · refine .inl ⟨?_, ?_⟩
    · rw [← h.free, frames_eq_empty_iff h.freeOk, hempty]
    · unfold allocateFrame
      rw [run_bind, run_self]
      dsimp only
      rw [if_pos hempty, run_fail]
  · right
    have hmem := extentAt_mem h.freeOk (i := 0) (by omega)
    have hfits := h.freeOk.fits _ hmem
    have haligned := hfits.aligned
    have hleast : IsLeast pool.free (extentAt fa.free 0).span.first := by
      obtain ⟨rest, hlive⟩ := live_eq_cons h.freeOk hempty
      have hcanonical := h.freeOk.canonical
      rw [← h.free, frames]
      rw [hlive, map_cons] at hcanonical ⊢
      exact hcanonical.least
    by_cases hone : (extentAt fa.free 0).pageCount = 1
    · refine ⟨(extentAt fa.free 0).physicalStart, removeFreeExtent 0 fa, ?_, haligned, hleast,
        removeFirst_stands h hempty hone⟩
      unfold allocateFrame
      rw [run_bind, run_self]
      dsimp only
      rw [if_neg hempty, if_pos hone]
      rfl
    · have hinside := hfits.inside
      have hpos := h.freeOk.size_pos hmem
      rw [← pageCount_toNat] at hpos
      have hsum : (extentAt fa.free 0).physicalStart.toNat + pageSize.toNat < 2 ^ 64 := by
        rw [pageSize_toNat]
        omega
      have hnext : checkedAdd (extentAt fa.free 0).physicalStart pageSize =
          some ((extentAt fa.free 0).physicalStart + pageSize) := if_pos hsum
      have hnext' := checkedAdd_eq_some.mp hnext
      rw [pageSize_toNat] at hnext'
      refine ⟨(extentAt fa.free 0).physicalStart, _, ?_, haligned, hleast,
        shrinkFirst_stands h hempty hone hnext'⟩
      unfold allocateFrame
      rw [run_bind, run_self]
      dsimp only
      rw [if_neg hempty, if_neg hone, hnext]
      rfl

end FrameAllocator

end MakopaVerified.Frames
