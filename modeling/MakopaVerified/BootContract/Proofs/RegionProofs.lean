import MakopaVerified.BootContract.Regions

/-!
# Lists of regions, one region at a time

Every checker walks over its list with the start and the end of the previous region in hand. On a
list that is in order so far, comparing with those two is comparing with every earlier region.
-/

namespace MakopaVerified.BootContract

open Foundation List

variable {done rest regions : List MemoryRegion} {r d : MemoryRegion}

/-- The start of the previous region. -/
def lastStart (done : List MemoryRegion) : Option UInt64 := done.getLast?.map (·.physicalStart)

/-- The end of the previous region. -/
def lastEnd (done : List MemoryRegion) : Option UInt64 :=
  done.getLast?.bind fun r => (checkedMul r.pageCount pageSize).bind (checkedAdd r.physicalStart)

theorem regionsOk_concat :
    RegionsOk (done ++ [r]) ↔
      RegionsOk done ∧ RegionOk r.physicalStart r.pageCount r.kind ∧ r.attributes = 0 ∧
        ∀ d ∈ done, d.span.stop ≤ r.span.first := by
  constructor
  · intro h
    obtain ⟨hdone, _, hlast⟩ := pairwise_append.mp h.ordered
    refine ⟨⟨fun d hd => h.each d (by simp [hd]), fun d hd => h.noAttributes d (by simp [hd]),
      hdone⟩, h.each r (by simp), h.noAttributes r (by simp), ?_⟩
    intro d hd
    exact hlast d hd r (by simp)
  · rintro ⟨h, hr, hattributes, hlast⟩
    refine ⟨?_, ?_, pairwise_append.mpr ⟨h.ordered, pairwise_singleton _ _, ?_⟩⟩
    · intro d hd
      rcases mem_append.mp hd with hd | hd
      · exact h.each d hd
      · obtain rfl := mem_singleton.mp hd
        exact hr
    · intro d hd
      rcases mem_append.mp hd with hd | hd
      · exact h.noAttributes d hd
      · obtain rfl := mem_singleton.mp hd
        exact hattributes
    · intro d hd t ht
      obtain rfl := mem_singleton.mp ht
      exact hlast d hd

theorem RegionsOk.of_append (h : RegionsOk (done ++ rest)) : RegionsOk done :=
  ⟨fun r hr => h.each r (mem_append_left _ hr),
    fun r hr => h.noAttributes r (mem_append_left _ hr),
    (pairwise_append.mp h.ordered).1⟩

theorem RegionsOk.tail (h : RegionsOk (r :: rest)) : RegionsOk rest :=
  ⟨fun d hd => h.each d (mem_cons_of_mem _ hd),
    fun d hd => h.noAttributes d (mem_cons_of_mem _ hd), (pairwise_cons.mp h.ordered).2⟩

theorem regionsOk_nil : RegionsOk [] := ⟨by simp, by simp, .nil⟩

theorem RegionsOk.span_pos (h : RegionsOk regions) (hr : r ∈ regions) :
    r.span.first < r.span.stop := by
  have hpos := (h.each r hr).nonempty
  unfold Span.stop MemoryRegion.span pageSpan
  dsimp only
  omega

/-- Only the last region decides whether the next one is in order. -/
theorem ordered_concat_iff (h : RegionsOk (done ++ [d])) :
    (∀ t ∈ done ++ [d], t.span.stop ≤ r.span.first) ↔ d.span.stop ≤ r.span.first := by
  constructor
  · intro hall
    exact hall d (by simp)
  · intro hd t ht
    rcases mem_append.mp ht with ht | ht
    · have hbefore := (regionsOk_concat.mp h).2.2.2 t ht
      have hpos := h.span_pos (r := d) (by simp)
      omega
    · obtain rfl := mem_singleton.mp ht
      exact hd

/-- The two comparisons with the previous region ask for the order of the list. -/
theorem ordered_iff_last (h : RegionsOk done) (hr : PageRange r.physicalStart r.pageCount) :
    ((lastStart done).any (fun start => r.physicalStart < start) = false ∧
      (lastEnd done).any (fun priorEnd => r.physicalStart < priorEnd) = false) ↔
      ∀ d ∈ done, d.span.stop ≤ r.span.first := by
  rcases eq_nil_or_concat done with rfl | ⟨done, d, rfl⟩
  · simp [lastStart, lastEnd]
  rw [concat_eq_append] at *
  have hd := h.each d (by simp)
  obtain ⟨stop, hstop⟩ := hd.exists_rangeEnd
  have hend : stop.toNat = d.span.stop * 4096 := hd.rangeEnd.mp hstop
  have hdstart : d.physicalStart.toNat = d.span.first * 4096 := hd.start_eq
  have hstart : r.physicalStart.toNat = r.span.first * 4096 := hr.start_eq
  have hpos := h.span_pos (r := d) (by simp)
  rw [ordered_concat_iff h]
  unfold lastStart lastEnd
  rw [List.getLast?_concat, Option.map_some, Option.any_some, Option.bind_some, hstop,
    Option.any_some, decide_eq_false_iff_not, decide_eq_false_iff_not, UInt64.lt_iff_toNat_lt,
    UInt64.lt_iff_toNat_lt]
  omega

theorem toNat_pos {word : UInt64} : 0 < word.toNat ↔ word ≠ 0 := by
  rw [Nat.pos_iff_ne_zero, ne_eq, ne_eq, ← UInt64.toNat_inj]
  rfl

/-- The checks that every loop over regions makes for one region, in whatever order: they pass when
the list stays well formed. -/
theorem regionsOk_concat_iff_checks (h : RegionsOk done) :
    RegionsOk (done ++ [r]) ↔
      r.pageCount ≠ 0 ∧ r.physicalStart % pageSize = 0 ∧ isKnownMemoryKind r.kind = true ∧
        r.attributes = 0 ∧
        (∃ stop, (checkedMul r.pageCount pageSize).bind (checkedAdd r.physicalStart) = some stop) ∧
        (lastStart done).any (fun start => r.physicalStart < start) = false ∧
        (lastEnd done).any (fun priorEnd => r.physicalStart < priorEnd) = false := by
  rw [regionsOk_concat]
  constructor
  · rintro ⟨-, hr, hattributes, hlast⟩
    obtain ⟨hstart, hend⟩ := (ordered_iff_last h hr.toPageRange).mpr hlast
    exact ⟨toNat_pos.mp hr.nonempty, mod_pageSize.mpr hr.aligned, hr.known, hattributes,
      hr.exists_rangeEnd, hstart, hend⟩
  · rintro ⟨hzero, haligned, hknown, hattributes, hstop, hstart, hend⟩
    have hrange := pageRange_iff.mpr ⟨haligned, hstop⟩
    exact ⟨h, ⟨hrange, hknown, toNat_pos.mpr hzero⟩, hattributes,
      (ordered_iff_last h hrange).mp ⟨hstart, hend⟩⟩

theorem lastStart_concat : lastStart (done ++ [r]) = some r.physicalStart := by
  unfold lastStart
  rw [List.getLast?_concat]
  rfl

theorem lastEnd_concat :
    lastEnd (done ++ [r]) = (checkedMul r.pageCount pageSize).bind (checkedAdd r.physicalStart) := by
  unfold lastEnd
  rw [List.getLast?_concat]
  rfl

end MakopaVerified.BootContract
