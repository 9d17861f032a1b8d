import MakopaVerified.BootContract.Normalize
import MakopaVerified.BootContract.Proofs.RegionProofs
import MakopaVerified.Foundation.Triples

/-!
# The checks of a region and the writer of the output

What `region_end` accepts, regions as pieces of a map of kinds, and `RegionWriter::emit`: the
entries written are the runs of the map up to where the writer stands, and an entry too many is the
only failure.
-/

namespace MakopaVerified.BootContract

open Foundation RegionWriter List

variable {done regions : List MemoryRegion} {r d : MemoryRegion} {start pages stop : UInt64}
  {kind k : UInt32} {x a b n : Nat}

/-! ## `region_end` -/

/-- `region_end` accepts the ranges that are not empty, start on a page and stop at an address. -/
theorem regionEnd_eq_ok :
    regionEnd start pages = .ok stop ↔
      PageRange start pages ∧ 0 < pages.toNat ∧ stop.toNat = (pageSpan start pages).stop * 4096 := by
  have hbind : regionEnd start pages =
      if pages = 0 then .error .zeroPages
      else if start % pageSize ≠ 0 then .error .unalignedStart
      else ((checkedMul pages pageSize).bind (checkedAdd start)).elim (.error .rangeOverflow)
        .ok := by
    unfold regionEnd
    cases checkedMul pages pageSize with
    | none => rfl
    | some bytes =>
      simp only [Option.bind_some]
      cases checkedAdd start bytes <;> rfl
  rw [hbind, toNat_pos]
  by_cases hzero : pages = 0
  · rw [if_pos hzero]
    exact ⟨fun h => (by cases h), fun h => absurd hzero h.2.1⟩
  rw [if_neg hzero]
  by_cases haligned : start % pageSize = 0
  swap
  · rw [if_pos haligned]
    exact ⟨fun h => (by cases h), fun h => absurd (mod_pageSize.mpr h.1.aligned) haligned⟩
  rw [if_neg (not_not.mpr haligned)]
  cases hend : (checkedMul pages pageSize).bind (checkedAdd start) with
  | none =>
    refine ⟨fun h => (by cases h), fun h => ?_⟩
    rw [h.1.rangeEnd.mpr h.2.2] at hend
    cases hend
  | some s =>
    have hrange := pageRange_iff.mpr ⟨haligned, s, hend⟩
    rw [hrange.rangeEnd] at hend
    rw [Option.elim_some, Except.ok.injEq, ← UInt64.toNat_inj, hend]
    exact ⟨fun h => ⟨hrange, hzero, h.symm⟩, fun h => h.2.2.symm⟩

theorem checkedRegionEnd_eq_ok :
    checkedRegionEnd start pages kind = .ok stop ↔
      RegionOk start pages kind ∧ stop.toNat = (pageSpan start pages).stop * 4096 := by
  unfold checkedRegionEnd
  by_cases hkind : isKnownMemoryKind kind = true
  · rw [if_neg (not_not.mpr hkind), regionEnd_eq_ok]
    exact ⟨fun h => ⟨⟨h.1, hkind, h.2.1⟩, h.2.2⟩, fun h => ⟨h.1.toPageRange, h.1.nonempty, h.2⟩⟩
  · rw [if_pos hkind]
    exact ⟨nofun, fun h => absurd h.1.known hkind⟩

/-- The end of a well formed range. -/
theorem RegionOk.regionEnd (h : RegionOk start pages kind) :
    ∃ stop, regionEnd start pages = .ok stop ∧
      stop.toNat = (pageSpan start pages).stop * 4096 := by
  obtain ⟨stop, hstop⟩ := h.exists_rangeEnd
  have hnat := h.rangeEnd.mp hstop
  exact ⟨stop, regionEnd_eq_ok.mpr ⟨h.toPageRange, h.nonempty, hnat⟩, hnat⟩

/-- `checked_region_end` and the two comparisons with the previous region, for one region: they pass
when the list stays well formed. -/
theorem regionsOk_concat_iff_end (h : RegionsOk done) (hattributes : r.attributes = 0) :
    RegionsOk (done ++ [r]) ↔
      ∃ stop, checkedRegionEnd r.physicalStart r.pageCount r.kind = .ok stop ∧
        (lastStart done).any (fun start => r.physicalStart < start) = false ∧
        (lastEnd done).any (fun priorEnd => r.physicalStart < priorEnd) = false := by
  rw [regionsOk_concat_iff_checks h]
  constructor
  · rintro ⟨hzero, haligned, hknown, -, hend, hlast⟩
    have hrange := pageRange_iff.mpr ⟨haligned, hend⟩
    obtain ⟨stop, hstop⟩ := hend
    exact ⟨stop, checkedRegionEnd_eq_ok.mpr
      ⟨⟨hrange, hknown, toNat_pos.mpr hzero⟩, hrange.rangeEnd.mp hstop⟩, hlast⟩
  · rintro ⟨stop, hcheck, hlast⟩
    obtain ⟨hr, -⟩ := checkedRegionEnd_eq_ok.mp hcheck
    exact ⟨toNat_pos.mp hr.nonempty, mod_pageSize.mpr hr.aligned, hr.known, hattributes,
      hr.exists_rangeEnd, hlast⟩

/-- The end that `checked_region_end` returns is the end of the previous region later. -/
theorem lastEnd_of_checked (h : checkedRegionEnd r.physicalStart r.pageCount r.kind = .ok stop) :
    lastEnd (done ++ [r]) = some stop := by
  obtain ⟨hr, hstop⟩ := checkedRegionEnd_eq_ok.mp h
  rw [lastEnd_concat]
  exact hr.rangeEnd.mpr hstop

/-! ## Regions as pieces -/

theorem RegionsOk.pieces (h : RegionsOk regions) :
    Pieces.Ordered (regions.map MemoryRegion.piece) := by
  refine ⟨fun p hp => ?_, pairwise_map.mpr h.ordered⟩
  obtain ⟨r, hr, rfl⟩ := mem_map.mp hp
  exact (h.each r hr).nonempty

theorem RegionsOk.kindAt_eq_some (h : RegionsOk regions) :
    kindAt regions x = some k ↔ ∃ r ∈ regions, r.span.Has x ∧ r.kind = k := by
  unfold kindAt
  rw [h.pieces.labelAt_eq_some]
  constructor
  · rintro ⟨p, hp, hx, hk⟩
    obtain ⟨r, hr, rfl⟩ := mem_map.mp hp
    exact ⟨r, hr, hx, hk⟩
  · rintro ⟨r, hr, hx, hk⟩
    exact ⟨r.piece, mem_map_of_mem hr, hx, hk⟩

theorem kindAt_eq_none : kindAt regions x = none ↔ ∀ r ∈ regions, ¬ r.span.Has x := by
  unfold kindAt
  rw [Pieces.labelAt_eq_none]
  exact forall_mem_map

/-- A well formed region is determined by its frames and its kind. -/
theorem piece_inj {t : MemoryRegion} (hr : PageRange r.physicalStart r.pageCount)
    (ht : PageRange t.physicalStart t.pageCount) (hattributes : r.attributes = t.attributes)
    (h : r.piece = t.piece) : r = t := by
  obtain ⟨hspan, hkind⟩ := Piece.mk.injEq .. ▸ h
  obtain ⟨hfirst, hsize⟩ := Span.mk.injEq .. ▸ hspan
  obtain ⟨start, pages, kind, attributes⟩ := r
  obtain ⟨start', pages', kind', attributes'⟩ := t
  obtain rfl := (frameNumber_inj hr.aligned ht.aligned).mp hfirst
  obtain rfl := UInt64.toNat_inj.mp hsize
  obtain rfl : kind = kind' := hkind
  obtain rfl : attributes = attributes' := hattributes
  rfl

/-- Two well formed lists of regions with the same pieces are equal. -/
theorem RegionsOk.ext {l m : List MemoryRegion} (hl : RegionsOk l) (hm : RegionsOk m)
    (h : l.map MemoryRegion.piece = m.map MemoryRegion.piece) : l = m := by
  induction l generalizing m with
  | nil => exact (map_eq_nil_iff.mp h.symm).symm
  | cons r l ih =>
    cases m with
    | nil => cases h
    | cons t m =>
      obtain ⟨hhead, htail⟩ := List.cons.inj h
      have hr := (hl.each r (by simp)).toPageRange
      have ht := (hm.each t (by simp)).toPageRange
      have hattributes := (hl.noAttributes r (by simp)).trans (hm.noAttributes t (by simp)).symm
      rw [piece_inj hr ht hattributes hhead, ih hl.tail hm.tail htail]

/-! ## `RegionWriter::emit` -/

variable {f : Nat → Option UInt32} {w : RegionWriter n}

/-- The entries written are the runs of the map `f` below the frame `a`. -/
structure Written (f : Nat → Option UInt32) (a : Nat) (w : RegionWriter n) : Prop where
  len_le : w.len ≤ n
  regionsOk : RegionsOk (live w.output w.len)
  runs : (live w.output w.len).map MemoryRegion.piece = Pieces.runs f a

theorem Written.length_runs (h : Written f a w) : (Pieces.runs f a).length = w.len := by
  rw [← h.runs, length_map, length_live h.len_le]

theorem Written.stop_le (h : Written f a w) (hr : r ∈ live w.output w.len) : r.span.stop ≤ a := by
  refine Pieces.runsOf_runs.inside (f := f) r.piece ?_
  rw [← h.runs]
  exact mem_map_of_mem hr

/-- Frames without a kind need no entry. -/
theorem Written.gap (h : Written f a w) (hle : a ≤ b) (hgap : ∀ x, a ≤ x → x < b → f x = none) :
    Written f b w :=
  ⟨h.len_le, h.regionsOk, by rw [h.runs, Pieces.runs_gap hle hgap]⟩

/-- The range from the frame `a` to the frame `b`, by its start and its number of pages. -/
theorem range_of_frames (hstart : start.toNat = a * 4096) (hstop : stop.toNat = b * 4096)
    (hlt : a < b) :
    PageRange start ((stop - start) / pageSize) ∧
      pageSpan start ((stop - start) / pageSize) = ⟨a, b - a⟩ := by
  have hbound := toNat_lt stop
  have hle : start ≤ stop := UInt64.le_iff_toNat_le.mpr (by omega)
  have hpages : ((stop - start) / pageSize).toNat = b - a := by
    rw [UInt64.toNat_div, UInt64.toNat_sub_of_le _ _ hle, pageSize_toNat]
    omega
  refine ⟨⟨by omega, by omega⟩, ?_⟩
  unfold pageSpan frameNumber
  rw [hpages, hstart]
  congr 1
  omega

/-- The entry before the end of those written. -/
theorem entry_last {before : List MemoryRegion} (hlen : w.len ≤ n)
    (hlive : live w.output w.len = before ++ [r]) :
    0 < w.len ∧ w.len - 1 = before.length ∧ w.entry (w.len - 1) = r := by
  have hlength := length_live (v := w.output) hlen
  rw [hlive, length_append, length_singleton] at hlength
  refine ⟨by omega, by omega, ?_⟩
  have hget : (live w.output w.len)[w.len - 1]? = some r := by
    rw [hlive, ← hlength, Nat.add_sub_cancel, List.getElem?_concat_length]
  rw [getElem?_live, if_pos (by omega)] at hget
  unfold entry
  rw [hget]
  rfl

/-- How a call that emits the frames up to `b` ends. -/
abbrev Emits {α : Type} (m : Method (RegionWriter n) NormalizeError α) (w : RegionWriter n)
    (f : Nat → Option UInt32) (b : Nat) (Q : α → RegionWriter n → Prop) : Prop :=
  m.Ends w Q fun _ _ => n < (Pieces.runs f b).length

/-- A new entry. -/
theorem push_ends (h : Written f a w)
    (hok : RegionsOk (live w.output w.len ++ [⟨start, pages, kind, 0⟩]))
    (hruns : Pieces.runs f b = Pieces.runs f a ++ [⟨pageSpan start pages, kind⟩]) :
    Emits (push start pages kind) w f b fun _ => Written f b := by
  refine .bind (.self (.ite (fun hfull => .fail ?_) fun hroom => .update ?_))
  · rw [hruns, length_append, length_singleton, h.length_runs, hfull]
    omega
  · have hlen := h.len_le
    have hlive := live_push (v := w.output) (x := ⟨start, pages, kind, 0⟩)
      (Nat.lt_of_le_of_ne hlen hroom)
    refine ⟨by dsimp only; omega, ?_, ?_⟩
    · dsimp only
      rw [hlive]
      exact hok
    · dsimp only
      rw [hlive, map_append, h.runs, hruns]
      rfl

/-- The last entry grows. -/
theorem grow_written {before : List MemoryRegion} {grown : UInt64} (h : Written f a w)
    (hlive : live w.output w.len = before ++ [r])
    (hrange : PageRange r.physicalStart grown) (hpos : 0 < grown.toNat)
    (hruns : Pieces.runs f b =
      before.map MemoryRegion.piece ++ [⟨pageSpan r.physicalStart grown, r.kind⟩]) :
    Written f b { w with
      output := w.output.setIfInBounds (w.len - 1) { r with pageCount := grown } } := by
  obtain ⟨hpos', hindex, -⟩ := entry_last h.len_le hlive
  have hset : live (w.output.setIfInBounds (w.len - 1) { r with pageCount := grown }) w.len =
      before ++ [{ r with pageCount := grown }] := by
    rw [live_set (by omega) h.len_le, hlive, hindex, set_append_right _ _ (le_refl _),
      Nat.sub_self]
    rfl
  have hok := h.regionsOk
  rw [hlive] at hok
  obtain ⟨hbefore, hr, hattributes, hlast⟩ := regionsOk_concat.mp hok
  refine ⟨h.len_le, ?_, ?_⟩
  · dsimp only
    rw [hset]
    exact regionsOk_concat.mpr ⟨hbefore, ⟨hrange, hr.known, hpos⟩, hattributes, hlast⟩
  · dsimp only
    rw [hset, map_append, hruns]
    rfl

/-- `emit` of the frames from `a` to `b`, which all have the kind in the map. -/
theorem emit_ends (h : Written f a w) (hstart : start.toNat = a * 4096)
    (hstop : stop.toNat = b * 4096) (hle : a ≤ b) (hknown : isKnownMemoryKind kind = true)
    (hkind : ∀ x, a ≤ x → x < b → f x = some kind) :
    Emits (emit start stop kind) w f b fun _ => Written f b := by
  refine .ite (fun hsame => .pure ?_) fun hne => ?_
  · obtain rfl : a = b := by
      rw [hsame] at hstart
      omega
    exact h
  have hlt : a < b := by
    refine Nat.lt_of_le_of_ne hle fun heq => hne ?_
    rw [← UInt64.toNat_inj, hstart, hstop, heq]
  obtain ⟨hrange, hspan⟩ := range_of_frames hstart hstop hlt
  have hput : Pieces.runs f b =
      Pieces.put (Pieces.runs f a) ⟨⟨a, b - a⟩, kind⟩ := by
    have hsum : a + (b - a) = b := by omega
    rw [← Pieces.runs_span (by omega) fun x hx hlt => hkind x hx (by omega), hsum]
  set pageCount := (stop - start) / pageSize with hcount
  have hpages : pageCount.toNat = b - a := congrArg Span.size hspan
  have hnonempty : 0 < pageCount.toNat := by omega
  have hnewOk : RegionsOk (live w.output w.len ++ [⟨start, pageCount, kind, 0⟩]) := by
    refine regionsOk_concat.mpr ⟨h.regionsOk, ⟨hrange, hknown, hnonempty⟩, rfl, fun d hd => ?_⟩
    show d.span.stop ≤ (pageSpan start pageCount).first
    rw [hspan]
    exact h.stop_le hd
  refine .bind (.self (.ite (fun hpos => ?_) fun hzero => ?_))
  · -- there is an entry before
    rcases eq_nil_or_concat (live w.output w.len) with hnil | ⟨before, r, hlive⟩
    · have hlength := length_live (v := w.output) h.len_le
      rw [hnil] at hlength
      exact absurd hlength (by simp; omega)
    rw [concat_eq_append] at hlive
    obtain ⟨-, -, hentry⟩ := entry_last h.len_le hlive
    have hr := h.regionsOk.each r (by rw [hlive]; simp)
    obtain ⟨previousEnd, hend, hendNat⟩ := hr.regionEnd
    have hruns := h.runs
    rw [hlive, map_append, map_singleton] at hruns
    dsimp only
    rw [hentry]
    refine .bind (.query (fun stop' hstop' => ?_) fun e he => ?_)
    swap
    · rw [hend] at he
      cases he
    obtain rfl : previousEnd = stop' := Except.ok.inj (hend.symm.trans hstop')
    have htouch : previousEnd = start ↔ r.span.stop = a := by
      rw [← UInt64.toNat_inj, hendNat, hstart]
      show r.span.stop * 4096 = a * 4096 ↔ _
      omega
    refine .ite (fun hsame => ?_) fun hother => ?_
    · -- the entry before grows
      have hstopr := htouch.mp hsame.2
      have hrstart : r.physicalStart.toNat = r.span.first * 4096 := hr.start_eq
      have hrstop : r.span.first + r.pageCount.toNat = a := hstopr
      have hbound := toNat_lt stop
      have hadd : r.pageCount.toNat + pageCount.toNat < 2 ^ 64 := by omega
      have hgrown : checkedAdd r.pageCount pageCount = some (r.pageCount + pageCount) := if_pos hadd
      have hgrownNat := toNat_add_of_lt hadd
      rw [hgrown]
      refine .update (grow_written h hlive ⟨hr.aligned, by omega⟩ (by omega) ?_)
      rw [hput, ← hruns, Pieces.put_same hsame.1 hstopr]
      congr 3
      show (⟨r.span.first, r.span.size + (b - a)⟩ : Span) = ⟨r.span.first, _⟩
      rw [hgrownNat, hpages]
      rfl
    · refine push_ends h hnewOk ?_
      rw [hput, hspan, ← hruns]
      exact Pieces.put_other fun hsame => hother ⟨hsame.1, htouch.mpr hsame.2⟩
  · -- the first entry
    refine push_ends h hnewOk ?_
    have hnil : live w.output w.len = [] := by
      rw [show w.len = 0 by omega]
      rfl
    rw [hput, hspan, ← h.runs, hnil]
    rfl

end MakopaVerified.BootContract
