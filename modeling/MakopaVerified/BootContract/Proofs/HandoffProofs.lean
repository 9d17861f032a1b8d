import MakopaVerified.BootContract.Handoff
import MakopaVerified.BootContract.Proofs.RegionProofs

/-!
# `validate_handoff`

What each check of `validate.rs` accepts, and what a handoff is that passes all of them.
-/

namespace MakopaVerified.BootContract

open Foundation

variable {done regions : List MemoryRegion} {r : MemoryRegion} {handoff : BootHandoff}
  {start stop handoffAddress regionsAddress : UInt64}

/-! ## The regions -/

theorem checkedEnd_eq_ok :
    r.checkedEnd = .ok stop ↔
      (checkedMul r.pageCount pageSize).bind (checkedAdd r.physicalStart) = some stop := by
  unfold MemoryRegion.checkedEnd
  rw [okOr_bind_eq_ok, Option.bind_eq_some_iff]
  exact exists_congr fun bytes => and_congr_right fun _ => okOr_eq_ok

theorem validateRegionsFrom_eq_ok (h : RegionsOk done) :
    validateRegionsFrom (lastStart done) (lastEnd done) regions = .ok () ↔
      RegionsOk (done ++ regions) := by
  induction regions generalizing done with
  | nil =>
    rw [List.append_nil]
    exact ⟨fun _ => h, fun _ => rfl⟩
  | cons r regions ih =>
    have hstep := regionsOk_concat_iff_checks (r := r) h
    rw [validateRegionsFrom, rejectIf_bind_eq_ok, rejectIf_bind_eq_ok, rejectIf_bind_eq_ok,
      rejectIf_bind_eq_ok, bind_eq_ok, List.append_cons]
    constructor
    · rintro ⟨hzero, haligned, hknown, hattributes, stop, hstop, hrest⟩
      rw [rejectIf_bind_eq_ok, rejectIf_bind_eq_ok, Bool.not_eq_true, Bool.not_eq_true] at hrest
      obtain ⟨hstart, hend, hrest⟩ := hrest
      rw [checkedEnd_eq_ok] at hstop
      have hnext := hstep.mpr ⟨hzero, not_not.mp haligned, not_not.mp hknown, not_not.mp hattributes,
        ⟨stop, hstop⟩, hstart, hend⟩
      refine (ih hnext).mp ?_
      rw [lastStart_concat, lastEnd_concat, hstop]
      exact hrest
    · intro hall
      obtain ⟨hzero, haligned, hknown, hattributes, ⟨stop, hstop⟩, hstart, hend⟩ :=
        hstep.mp hall.of_append
      have hrest := (ih hall.of_append).mpr hall
      rw [lastStart_concat, lastEnd_concat, hstop] at hrest
      refine ⟨hzero, not_not.mpr haligned, not_not.mpr hknown, not_not.mpr hattributes, stop,
        checkedEnd_eq_ok.mpr hstop, ?_⟩
      rw [rejectIf_bind_eq_ok, rejectIf_bind_eq_ok, Bool.not_eq_true, Bool.not_eq_true]
      exact ⟨hstart, hend, hrest⟩

/-- The loop of `validate_handoff` accepts the well formed lists of regions. -/
theorem validateRegions_eq_ok :
    validateRegionsFrom none none regions = .ok () ↔ RegionsOk regions :=
  validateRegionsFrom_eq_ok regionsOk_nil

/-- `overlaps_usable` on well formed regions: some byte of the range lies in a usable page. -/
theorem overlapsUsable_eq_ok (h : RegionsOk regions) (hlt : start.toNat < stop.toNat) :
    ∃ inside, overlapsUsable start stop regions = .ok inside ∧
      (inside = false ↔ ClearOfUsable regions start stop) := by
  induction regions with
  | nil =>
    refine ⟨false, rfl, iff_of_true rfl fun address _ _ hin => ?_⟩
    obtain ⟨r, hr, -⟩ := hin
    cases hr
  | cons r regions ih =>
    obtain ⟨inside, hrest, hclear⟩ := ih h.tail
    have hr := h.each r (by simp)
    obtain ⟨regionEnd, hend⟩ := hr.exists_rangeEnd
    have hendNat : regionEnd.toNat = r.span.stop * 4096 := hr.rangeEnd.mp hend
    have hstartNat : r.physicalStart.toNat = r.span.first * 4096 := hr.start_eq
    have hpos := h.span_pos (r := r) (by simp)
    have hcons : ClearOfUsable (r :: regions) start stop ↔
        (r.kind = memoryUsable → ∀ address, start.toNat ≤ address → address < stop.toNat →
          ¬ r.span.Has (address / 4096)) ∧ ClearOfUsable regions start stop := by
      constructor
      · intro hall
        refine ⟨fun hkind address hge hle hhas => ?_, fun address hge hle hin => ?_⟩
        · exact hall address hge hle ⟨r, by simp, hkind, hhas⟩
        · obtain ⟨t, ht, hkind, hhas⟩ := hin
          exact hall address hge hle ⟨t, List.mem_cons_of_mem _ ht, hkind, hhas⟩
      · rintro ⟨hhead, hall⟩ address hge hle ⟨t, ht, hkind, hhas⟩
        rcases List.mem_cons.mp ht with rfl | ht
        · exact hhead hkind address hge hle hhas
        · exact hall address hge hle ⟨t, ht, hkind, hhas⟩
    rw [hcons, overlapsUsable]
    by_cases hkind : r.kind = memoryUsable
    swap
    · rw [if_pos hkind]
      refine ⟨inside, hrest, hclear.trans ⟨fun hc => ⟨fun hk => absurd hk hkind, hc⟩, And.right⟩⟩
    rw [if_neg (not_not.mpr hkind), checkedEnd_eq_ok.mpr hend]
    show ∃ inside, (if start < regionEnd ∧ r.physicalStart < stop then Except.ok true
      else overlapsUsable start stop regions) = .ok inside ∧ _
    have htouch : (start < regionEnd ∧ r.physicalStart < stop) ↔
        start.toNat < r.span.stop * 4096 ∧ r.span.first * 4096 < stop.toNat := by
      rw [UInt64.lt_iff_toNat_lt, UInt64.lt_iff_toNat_lt, hendNat, hstartNat]
    by_cases hover : start < regionEnd ∧ r.physicalStart < stop
    · rw [if_pos hover]
      refine ⟨true, rfl, iff_of_false (by decide) fun hc => ?_⟩
      -- the first byte of both is in the page
      obtain ⟨hleft, hright⟩ := htouch.mp hover
      refine hc.1 hkind (max start.toNat (r.span.first * 4096)) (by omega) (by omega) ⟨?_, ?_⟩
      · omega
      · omega
    · rw [if_neg hover]
      rw [htouch] at hover
      refine ⟨inside, hrest, hclear.trans ⟨fun hc => ⟨?_, hc⟩, And.right⟩⟩
      intro _ address hge hle hhas
      have hfirst := hhas.1
      have hstop := hhas.2
      omega

/-! ## The header -/

theorem toNat_pos_u32 {word : UInt32} : 0 < word.toNat ↔ word ≠ 0 := by
  rw [Nat.pos_iff_ne_zero, ne_eq, ne_eq, ← UInt32.toNat_inj]
  rfl

/-- The fixed fields of the header. -/
structure HeaderOk (header : BootHandoffHeader) : Prop where
  fixed : header = { BootHandoffHeader.new with flags := header.flags }
  flags : header.flags &&& ~~~framebufferPresent = 0

theorem validateHeader_eq_ok {header : BootHandoffHeader} :
    validateHeader header = .ok () ↔ HeaderOk header := by
  unfold validateHeader
  rw [rejectIf_bind_eq_ok, rejectIf_bind_eq_ok, rejectIf_bind_eq_ok, rejectIf_bind_eq_ok,
    rejectIf_bind_eq_ok, rejectIf_bind_eq_ok, rejectIf_eq_ok]
  simp only [not_not]
  constructor
  · rintro ⟨hmagic, hmajor, hminor, hheader, hhandoff, hflags, hreserved⟩
    refine ⟨?_, hflags⟩
    obtain ⟨magic, major, minor, headerSize, handoffSize, flags, reserved⟩ := header
    dsimp only at *
    subst hmagic hmajor hminor hheader hhandoff hreserved
    rfl
  · rintro ⟨hfixed, hflags⟩
    rw [hfixed]
    exact ⟨rfl, rfl, rfl, rfl, rfl, hflags, rfl⟩

theorem toNat_mul_u32 {a b : UInt32} :
    checkedMul a.toUInt64 b.toUInt64 = some (a.toUInt64 * b.toUInt64) ∧
      (a.toUInt64 * b.toUInt64).toNat = a.toNat * b.toNat := by
  have ha := a.toNat_lt
  have hb := b.toNat_lt
  have hlt : a.toUInt64.toNat * b.toUInt64.toNat < 2 ^ 64 := by
    rw [UInt32.toNat_toUInt64, UInt32.toNat_toUInt64]
    calc a.toNat * b.toNat < 2 ^ 32 * 2 ^ 32 := Nat.mul_lt_mul'' ha hb
      _ = 2 ^ 64 := by norm_num
  refine ⟨if_pos hlt, ?_⟩
  rw [toNat_mul_of_lt hlt, UInt32.toNat_toUInt64, UInt32.toNat_toUInt64]

/-- The least length of a framebuffer, when it is a word. -/
theorem minimumLength_eq_some {f : Framebuffer} {length : UInt64} :
    f.minimumLength = some length ↔ length.toNat = f.stridePixels.toNat * f.height.toNat * 4 := by
  unfold Framebuffer.minimumLength
  obtain ⟨hmul, hnat⟩ := toNat_mul_u32 (a := f.stridePixels) (b := f.height)
  rw [hmul, Option.bind_some, checkedMul_eq_some, hnat]
  rfl

/-- What the framebuffer of a handoff must be. -/
def FramebufferShapeOk (handoff : BootHandoff) : Prop :=
  if handoff.hasFramebuffer then FramebufferOk handoff.framebuffer
  else handoff.framebuffer.isZero = true

theorem validateFramebufferShape_eq_ok :
    validateFramebufferShape handoff = .ok () ↔ FramebufferShapeOk handoff := by
  unfold validateFramebufferShape FramebufferShapeOk
  dsimp only
  by_cases hpresent : handoff.hasFramebuffer = true
  swap
  · rw [if_pos hpresent, if_neg hpresent, rejectIf_eq_ok, not_not]
  rw [if_neg (not_not.mpr hpresent), if_pos hpresent, rejectIf_bind_eq_ok, rejectIf_bind_eq_ok,
    rejectIf_bind_eq_ok, okOr_bind_eq_ok]
  simp only [rejectIf_bind_eq_ok, okOr_bind_eq_ok, minimumLength_eq_some, checkedAdd_eq_some,
    UInt64.lt_iff_toNat_lt, UInt32.lt_iff_toNat_lt, gt_iff_lt]
  constructor
  · rintro ⟨hfields, hformat, hstride, length, hlength, hle, stop, hstop, -⟩
    push Not at hfields hformat
    obtain ⟨hstart, -, hwidth, hheight, -, hreserved⟩ := hfields
    have hbound := toNat_lt stop
    exact ⟨hstart, hwidth, hheight, by omega, hreserved, Decidable.or_iff_not_imp_left.mpr hformat,
      by omega, by omega⟩
  · rintro ⟨hstart, hwidth, hheight, hstride, hreserved, hformat, hlength, hinside⟩
    have hwidth' := toNat_pos_u32.mpr hwidth
    have hheight' := toNat_pos_u32.mpr hheight
    have hpixels : 0 < handoff.framebuffer.stridePixels.toNat * handoff.framebuffer.height.toNat :=
      Nat.mul_pos (by omega) hheight'
    have hbytes : handoff.framebuffer.byteLength ≠ 0 := toNat_pos.mp (by omega)
    have hstrideNe : handoff.framebuffer.stridePixels ≠ 0 := toNat_pos_u32.mp (by omega)
    have hbound := toNat_lt handoff.framebuffer.byteLength
    obtain ⟨length, hlengthNat⟩ := exists_toNat_eq (hlength.trans_lt hbound)
    refine ⟨?_, ?_, by omega, length, hlengthNat, by omega, _, toNat_add_of_lt hinside, rfl⟩
    · push Not
      exact ⟨hstart, hbytes, hwidth, hheight, hstrideNe, hreserved⟩
    · push Not
      exact hformat.resolve_left

/-- The part of a handoff that `validate_handoff_header` looks at. -/
structure HandoffHeaderOk (handoff : BootHandoff) : Prop where
  header : HeaderOk handoff.header
  count_pos : 0 < handoff.memoryRegionCount.toNat
  count_le : handoff.memoryRegionCount.toNat ≤ maxMemoryRegions
  address : handoff.memoryRegionsAddress ≠ 0
  aligned : handoff.memoryRegionsAddress % recordAlignment = 0
  entrySize : handoff.memoryRegionEntrySize = UInt32.ofNat regionSize
  inside : handoff.memoryRegionsAddress.toNat + handoff.memoryRegionCount.toNat * 24 < 2 ^ 64
  framebuffer : FramebufferShapeOk handoff

theorem validateHandoffHeader_eq_ok {count : Nat} :
    validateHandoffHeader handoff = .ok count ↔
      HandoffHeaderOk handoff ∧ count = handoff.memoryRegionCount.toNat := by
  unfold validateHandoffHeader
  rw [unit_bind_eq_ok, rejectIf_bind_eq_ok, rejectIf_bind_eq_ok, rejectIf_bind_eq_ok,
    validateHeader_eq_ok, okOr_bind_eq_ok]
  simp only [okOr_bind_eq_ok, unit_bind_eq_ok, validateFramebufferShape_eq_ok, checkedAdd_eq_some,
    checkedMul_eq_some, UInt32.toNat_toUInt64]
  have hsize : (UInt64.ofNat regionSize).toNat = 24 := rfl
  constructor
  · rintro ⟨hheader, hcount, haddress, hentry, bytes, hbytes, stop, hstop, hshape, hresult⟩
    push Not at hcount haddress
    have hbound := toNat_lt stop
    rw [hsize] at hbytes
    exact ⟨⟨hheader, toNat_pos_u32.mpr hcount.1, hcount.2, haddress.1, haddress.2,
      not_not.mp hentry, by omega, hshape⟩, (Except.ok.inj hresult).symm⟩
  · rintro ⟨⟨hheader, hpos, hle, haddress, haligned, hentry, hinside, hshape⟩, rfl⟩
    obtain ⟨stop, hstop⟩ := exists_toNat_eq hinside
    obtain ⟨bytes, hbytes⟩ := exists_toNat_eq (lt_of_le_of_lt (Nat.le_add_left _ _) hinside)
    refine ⟨hheader, ?_, ?_, not_not.mpr hentry, bytes, hbytes, stop, by omega, hshape, rfl⟩
    · push Not
      exact ⟨toNat_pos_u32.mp hpos, hle⟩
    · push Not
      exact ⟨haddress, haligned⟩

/-! ## The handoff -/

/-- What `validate_handoff` accepts: a record and an array of regions with the right shape, well
formed regions, and neither of the two nor the framebuffer in usable memory. -/
structure HandoffOk (handoff : BootHandoff) (handoffAddress regionsAddress : UInt64)
    (regions : List MemoryRegion) : Prop where
  header : HandoffHeaderOk handoff
  address : handoffAddress ≠ 0
  aligned : handoffAddress % recordAlignment = 0
  inside : handoffAddress.toNat + 88 < 2 ^ 64
  length : regions.length = handoff.memoryRegionCount.toNat
  slice : handoff.memoryRegionsAddress = regionsAddress
  regionsOk : RegionsOk regions
  handoffClear : ClearOfUsable regions handoffAddress (handoffAddress + 88)
  regionsClear : ClearOfUsable regions regionsAddress
    (regionsAddress + UInt64.ofNat (regions.length * 24))
  framebufferClear : handoff.hasFramebuffer = true →
    ClearOfUsable regions handoff.framebuffer.physicalStart
      (handoff.framebuffer.physicalStart + handoff.framebuffer.byteLength)

/-- A check that a range is clear of usable memory, before the rest. -/
theorem overlapsUsable_bind_eq_ok (h : RegionsOk regions) (hlt : start.toNat < stop.toNat)
    {e : ValidationError} {f : Unit → Except ValidationError Unit} :
    (overlapsUsable start stop regions >>= fun inside => rejectIf inside e >>= f) = .ok () ↔
      ClearOfUsable regions start stop ∧ f () = .ok () := by
  obtain ⟨inside, hrun, hclear⟩ := overlapsUsable_eq_ok h hlt
  rw [hrun, ← hclear]
  show (rejectIf inside e >>= f) = .ok () ↔ _
  rw [rejectIf_bind_eq_ok, Bool.not_eq_true]

/-- The checks of `validate_handoff` after its loop. -/
theorem validateUsable_eq_ok (h : RegionsOk regions) (hheader : HandoffHeaderOk handoff)
    (hlength : regions.length = handoff.memoryRegionCount.toNat) {handoffEnd : UInt64}
    (hend : handoffAddress.toNat < handoffEnd.toNat) :
    validateUsable handoff handoffAddress handoffEnd regions regions.length = .ok () ↔
      ClearOfUsable regions handoffAddress handoffEnd ∧
        ClearOfUsable regions handoff.memoryRegionsAddress
          (handoff.memoryRegionsAddress + UInt64.ofNat (regions.length * 24)) ∧
        (handoff.hasFramebuffer = true →
          ClearOfUsable regions handoff.framebuffer.physicalStart
            (handoff.framebuffer.physicalStart + handoff.framebuffer.byteLength)) := by
  have hinside := hheader.inside
  have hpos := hheader.count_pos
  have hle := hheader.count_le
  have hbytes : (UInt64.ofNat (regions.length * 24)).toNat = regions.length * 24 :=
    UInt64.toNat_ofNat_of_lt' (by show _ < 2 ^ 64; omega)
  have harray : handoff.memoryRegionsAddress.toNat +
      (UInt64.ofNat (regions.length * regionSize)).toNat < 2 ^ 64 := by
    rw [show regionSize = 24 from rfl, hbytes]
    omega
  unfold validateUsable
  rw [overlapsUsable_bind_eq_ok h hend, okOr_bind_eq_ok, checkedAdd, if_pos harray]
  simp only [Option.some.injEq, exists_eq_left']
  rw [overlapsUsable_bind_eq_ok h]
  swap
  · rw [toNat_add_of_lt harray, show regionSize = 24 from rfl, hbytes]
    omega
  refine and_congr_right fun _ => and_congr_right fun _ => ?_
  by_cases hpresent : handoff.hasFramebuffer = true
  swap
  · rw [if_neg hpresent]
    exact iff_of_true rfl fun hc => absurd hc hpresent
  have hshape := hheader.framebuffer
  unfold FramebufferShapeOk at hshape
  rw [if_pos hpresent] at hshape
  have hwidth := toNat_pos_u32.mpr hshape.width
  have hheight := toNat_pos_u32.mpr hshape.height
  have hstride := hshape.stride
  have hlengthFb := hshape.length
  have hpixels : 0 < handoff.framebuffer.stridePixels.toNat * handoff.framebuffer.height.toNat :=
    Nat.mul_pos (by omega) hheight
  rw [if_pos hpresent, okOr_bind_eq_ok, checkedAdd, if_pos hshape.inside]
  simp only [Option.some.injEq, exists_eq_left']
  have hlt : handoff.framebuffer.physicalStart.toNat <
      (handoff.framebuffer.physicalStart + handoff.framebuffer.byteLength).toNat := by
    rw [toNat_add_of_lt hshape.inside]
    omega
  obtain ⟨inside, hrun, hclear⟩ := overlapsUsable_eq_ok h hlt
  rw [hrun]
  show rejectIf inside ValidationError.framebufferInUsableMemory = .ok () ↔ _
  rw [rejectIf_eq_ok, Bool.not_eq_true, hclear]
  exact ⟨fun hc _ => hc, fun hc => hc hpresent⟩

/-- `validate_handoff` accepts exactly those. -/
theorem validateHandoff_eq_ok :
    validateHandoff handoff handoffAddress regionsAddress regions = .ok () ↔
      HandoffOk handoff handoffAddress regionsAddress regions := by
  have hsize : (UInt64.ofNat handoffSize).toNat = 88 := rfl
  unfold validateHandoff
  rw [bind_eq_ok]
  constructor
  · rintro ⟨count, hcheck, hrest⟩
    obtain ⟨hheader, rfl⟩ := validateHandoffHeader_eq_ok.mp hcheck
    rw [rejectIf_bind_eq_ok, okOr_bind_eq_ok] at hrest
    obtain ⟨haddress, handoffEnd, hend, hrest⟩ := hrest
    rw [rejectIf_bind_eq_ok, unit_bind_eq_ok, validateRegions_eq_ok] at hrest
    obtain ⟨hslice, hregions, husable⟩ := hrest
    push Not at haddress hslice
    have hendNat := checkedAdd_eq_some.mp hend
    have hbound := toNat_lt handoffEnd
    rw [hsize] at hendNat
    obtain rfl : handoffEnd = handoffAddress + 88 := by
      rw [← UInt64.toNat_inj, toNat_add_of_lt (by show _ + 88 < _; omega)]
      exact hendNat
    obtain ⟨hlength, rfl⟩ := hslice
    rw [← hlength] at husable
    obtain ⟨hhandoff, harray, hframebuffer⟩ :=
      (validateUsable_eq_ok hregions hheader hlength (by omega)).mp husable
    exact ⟨hheader, haddress.1, haddress.2, by omega, hlength, rfl, hregions, hhandoff, harray,
      hframebuffer⟩
  · intro h
    have hinside := h.inside
    have hend : checkedAdd handoffAddress (UInt64.ofNat handoffSize) = some (handoffAddress + 88) :=
      if_pos hinside
    have hlt : handoffAddress.toNat < (handoffAddress + 88).toNat := by
      rw [checkedAdd_eq_some.mp hend, hsize]
      omega
    refine ⟨_, validateHandoffHeader_eq_ok.mpr ⟨h.header, rfl⟩, ?_⟩
    rw [rejectIf_bind_eq_ok, okOr_bind_eq_ok]
    refine ⟨?_, _, hend, ?_⟩
    · push Not
      exact ⟨h.address, h.aligned⟩
    rw [rejectIf_bind_eq_ok, unit_bind_eq_ok, validateRegions_eq_ok, ← h.length]
    refine ⟨?_, h.regionsOk, ?_⟩
    · push Not
      exact ⟨rfl, h.slice⟩
    · refine (validateUsable_eq_ok h.regionsOk h.header h.length hlt).mpr
        ⟨h.handoffClear, ?_, h.framebufferClear⟩
      rw [h.slice]
      exact h.regionsClear

end MakopaVerified.BootContract
