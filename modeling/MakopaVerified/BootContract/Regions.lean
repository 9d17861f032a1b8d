import MakopaVerified.BootContract.Memory
import MakopaVerified.Foundation.Spans

/-!
# Ranges of pages

Every component that handles physical memory describes it by a start address and a number of pages,
and computes the end of a range by the same checked arithmetic. Here such a range is read as a span
of page frames, and a list of regions as a list of spans.
-/

namespace MakopaVerified.BootContract

open Foundation

/-- The number of the page frame that an address lies in. -/
def frameNumber (address : UInt64) : Nat := address.toNat / 4096

/-- The page frames of a range of pages. -/
def pageSpan (start pages : UInt64) : Span := ⟨frameNumber start, pages.toNat⟩

/-- A range of pages that starts on a page and stops at an address. -/
structure PageRange (start pages : UInt64) : Prop where
  aligned : start.toNat % 4096 = 0
  inside : start.toNat + pages.toNat * 4096 < 2 ^ 64

/-- A range of pages with a kind, as every checker of regions wants it. -/
structure RegionOk (start pages : UInt64) (kind : UInt32) : Prop extends PageRange start pages where
  known : isKnownMemoryKind kind = true
  nonempty : 0 < pages.toNat

/-- The page frames of a region. -/
def MemoryRegion.span (region : MemoryRegion) : Span :=
  pageSpan region.physicalStart region.pageCount

/-- Regions that are well formed one by one, without attributes, ascending and apart. -/
structure RegionsOk (regions : List MemoryRegion) : Prop where
  each : ∀ r ∈ regions, RegionOk r.physicalStart r.pageCount r.kind
  noAttributes : ∀ r ∈ regions, r.attributes = 0
  ordered : regions.Pairwise fun r t => r.span.stop ≤ t.span.first

/-- The page frames of the usable regions. -/
def usableFrames (regions : List MemoryRegion) : Set Nat :=
  { x | ∃ r ∈ regions, r.kind = memoryUsable ∧ r.span.Has x }

/-! ## The checked arithmetic -/

theorem pageSize_toNat : pageSize.toNat = 4096 := rfl

theorem mod_pageSize {address : UInt64} : address % pageSize = 0 ↔ address.toNat % 4096 = 0 := by
  rw [← UInt64.toNat_inj, UInt64.toNat_mod, pageSize_toNat]
  rfl

theorem rangeEnd_eq_some {start pages stop : UInt64} :
    (checkedMul pages pageSize).bind (checkedAdd start) = some stop ↔
      stop.toNat = start.toNat + pages.toNat * 4096 := by
  rw [Option.bind_eq_some_iff]
  constructor
  · rintro ⟨bytes, hmul, hadd⟩
    rw [checkedAdd_eq_some.mp hadd, checkedMul_eq_some.mp hmul, pageSize_toNat]
  · intro hstop
    have hlt := toNat_lt stop
    have hbytes : pages.toNat * pageSize.toNat < 2 ^ 64 := by
      rw [pageSize_toNat]
      omega
    refine ⟨pages * pageSize, if_pos hbytes, ?_⟩
    rw [checkedAdd_eq_some, toNat_mul_of_lt hbytes, pageSize_toNat, hstop]

namespace PageRange

variable {start pages : UInt64}

/-- The start of the range, from its first frame. -/
theorem start_eq (h : PageRange start pages) :
    start.toNat = (pageSpan start pages).first * 4096 := by
  have haligned := h.aligned
  unfold pageSpan frameNumber
  dsimp only
  omega

theorem rangeEnd (h : PageRange start pages) {stop : UInt64} :
    (checkedMul pages pageSize).bind (checkedAdd start) = some stop ↔
      stop.toNat = (pageSpan start pages).stop * 4096 := by
  rw [rangeEnd_eq_some, h.start_eq, Span.stop, Nat.add_mul]
  rfl

theorem exists_rangeEnd (h : PageRange start pages) :
    ∃ stop, (checkedMul pages pageSize).bind (checkedAdd start) = some stop := by
  refine ⟨UInt64.ofNat (start.toNat + pages.toNat * 4096), ?_⟩
  rw [rangeEnd_eq_some, UInt64.toNat_ofNat', Nat.mod_eq_of_lt h.inside]

end PageRange

/-- A range has an end exactly when it stops at an address. -/
theorem pageRange_iff {start pages : UInt64} :
    PageRange start pages ↔
      start % pageSize = 0 ∧ ∃ stop, (checkedMul pages pageSize).bind (checkedAdd start) = some stop := by
  constructor
  · intro h
    exact ⟨mod_pageSize.mpr h.aligned, h.exists_rangeEnd⟩
  · rintro ⟨haligned, stop, hstop⟩
    have hlt := toNat_lt stop
    rw [rangeEnd_eq_some.mp hstop] at hlt
    exact ⟨mod_pageSize.mp haligned, hlt⟩

/-- On aligned addresses, the order of frames is the order of addresses. -/
theorem frameNumber_inj {a b : UInt64} (ha : a.toNat % 4096 = 0) (hb : b.toNat % 4096 = 0) :
    frameNumber a = frameNumber b ↔ a = b := by
  unfold frameNumber
  rw [← UInt64.toNat_inj]
  omega

end MakopaVerified.BootContract
