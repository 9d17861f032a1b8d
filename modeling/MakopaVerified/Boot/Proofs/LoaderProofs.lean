import MakopaVerified.Boot.Loader
import MakopaVerified.Boot.Proofs.AgreementProofs
import MakopaVerified.Frames.Proofs.UndoProofs
import MakopaVerified.KernelImage.Proofs.ParseProofs

/-!
# The loader keeps what the kernel needs

The overrides of the loader cover the pages of the kernel segments and of the framebuffer, and the
memory map lists the pages of the handoff and of the regions as loader data. So none of their frames
is usable in the regions that the loader writes, and the frame allocator only hands out usable frames.
-/

namespace MakopaVerified.Boot

open Foundation BootContract Frames
open KernelImage

variable {firmware : Firmware} {kernelBytes : ImageBytes} {image : ValidatedImage}
  {framebuffer : Framebuffer} {overrides result : List MemoryRegionOverride}

/-! ## The overrides -/

theorem loadedSegments_eq (hparse : ValidatedImage.parse kernelBytes = .ok image) :
    loadedSegments image = .ok ((loadHeaders kernelBytes.data).map ProgramHeader.segment) := by
  have hyields := parse_yields hparse
  obtain ⟨-, -, -, rfl⟩ := parse_eq_ok.mp hparse
  have hfew : ((loadHeaders kernelBytes.data).map ProgramHeader.segment).length <
      (imageOf kernelBytes).programHeaderCount + 1 := by
    rw [List.length_map]
    refine Nat.lt_succ_of_le ((List.length_filter_le _ _).trans ?_)
    rw [List.length_map, List.length_range]
    rfl
  rw [loadedSegments, hyields.collect hfew]
  rfl

theorem collectFrom_ok {segments : List Segment} (h : collectFrom overrides segments = .ok result) :
    result = overrides ++ segments.map kernelOverride := by
  induction segments generalizing overrides with
  | nil =>
    rw [List.map_nil, List.append_nil]
    exact (Except.ok.inj h).symm
  | cons segment segments ih =>
    obtain ⟨-, hrest⟩ := rejectIf_bind_eq_ok.mp h
    rw [ih hrest, List.map_cons, List.append_assoc]
    rfl

/-- The loader keeps the pages of every segment. -/
theorem collectKernelOverrides_ok (hparse : ValidatedImage.parse kernelBytes = .ok image)
    (h : collectKernelOverrides image = .ok result) :
    result = (loadHeaders kernelBytes.data).map fun header => kernelOverride header.segment := by
  obtain ⟨segments, hsegments, hcollect⟩ := bind_eq_ok.mp h
  rw [loadedSegments_eq hparse] at hsegments
  obtain rfl := Except.ok.inj hsegments
  rw [collectFrom_ok hcollect, List.nil_append, List.map_map]
  rfl

theorem toNat_pages (header : ProgramHeader) :
    (kernelOverride header.segment).pageCount.toNat = (header.memorySize.toNat + 4095) / 4096 := by
  have hsize := toNat_lt header.memorySize
  exact UInt64.toNat_ofNat_of_lt'
    (show (header.memorySize.toNat + 4095) / 4096 < 2 ^ 64 by omega)

/-- A byte of a page of a kernel segment lies in a frame of its override. -/
theorem kernelOverride_has {header : ProgramHeader} {fileLength byte : Nat}
    (h : header.Loadable fileLength) (hbyte : byte ∈ header.segment.pages) :
    (kernelOverride header.segment).region.span.Has (byte / 4096) := by
  have hpage : header.segment.physicalStart.toNat % 4096 = 0 := h.onPage
  obtain ⟨hstart, hstop⟩ := hbyte
  have hpages : _ = header.segment.pageCount := toNat_pages header
  show header.segment.physicalStart.toNat / 4096 ≤ byte / 4096 ∧
    byte / 4096 < header.segment.physicalStart.toNat / 4096 +
      (kernelOverride header.segment).pageCount.toNat
  omega

theorem toNat_pageFloor (address : UInt64) :
    (pageFloor address).toNat = address.toNat / 4096 * 4096 := by
  have hmask : (~~~(BootContract.pageSize - 1) : UInt64).toNat = (2 ^ 52 - 1) * 2 ^ 12 := by decide
  have hlt := toNat_lt address
  rw [pageFloor, UInt64.toNat_and, hmask, and_field]
  omega

/-- The override of a framebuffer is of another kind than usable and contains its bytes. -/
theorem addFramebufferOverride_ok (h : addFramebufferOverride framebuffer overrides = .ok result) :
    (∀ o ∈ overrides, o ∈ result) ∧
      (∀ o ∈ result, o ∈ overrides ∨ o.kind = memoryMmio) ∧
      ∀ byte, framebuffer.physicalStart.toNat ≤ byte →
        byte < framebuffer.physicalStart.toNat + framebuffer.byteLength.toNat →
        ∃ o ∈ result, o.region.span.Has (byte / 4096) := by
  unfold addFramebufferOverride at h
  split at h
  · rename_i hzero
    obtain rfl := Except.ok.inj h
    obtain ⟨-, hlength, -⟩ := of_decide_eq_true hzero
    refine ⟨fun _ ho => ho, fun _ ho => .inl ho, fun byte hstart hstop => ?_⟩
    rw [hlength] at hstop
    exact absurd hstop (not_lt.mpr hstart)
  obtain ⟨-, hrest⟩ := rejectIf_bind_eq_ok.mp h
  obtain ⟨rounded, hrounded, hpure⟩ := okOr_bind_eq_ok.mp hrest
  obtain ⟨stop, hstop, hround⟩ := Option.bind_eq_some_iff.mp hrounded
  have hend := checkedAdd_eq_some.mp hstop
  have hround := checkedAdd_eq_some.mp hround
  have hmask : (BootContract.pageSize - 1).toNat = 4095 := by decide
  obtain rfl := Except.ok.inj hpure
  refine ⟨fun _ ho => List.mem_append_left _ ho, fun o ho => ?_, fun byte hlow hhigh => ?_⟩
  · rcases List.mem_append.mp ho with ho | ho
    · exact .inl ho
    · exact .inr (List.mem_singleton.mp ho ▸ rfl)
  · refine ⟨_, List.mem_append_right _ (List.mem_singleton_self _), ?_⟩
    have hfloor := toNat_pageFloor framebuffer.physicalStart
    have hceil := toNat_pageFloor rounded
    have hle : pageFloor framebuffer.physicalStart ≤ pageFloor rounded := by
      rw [UInt64.le_iff_toNat_le]
      omega
    have hpages : ((pageFloor rounded - pageFloor framebuffer.physicalStart) /
        BootContract.pageSize).toNat =
        ((pageFloor rounded).toNat - (pageFloor framebuffer.physicalStart).toNat) / 4096 := by
      rw [UInt64.toNat_div, UInt64.toNat_sub_of_le _ _ hle]
      rfl
    show (pageFloor framebuffer.physicalStart).toNat / 4096 ≤ byte / 4096 ∧
      byte / 4096 < (pageFloor framebuffer.physicalStart).toNat / 4096 +
        ((pageFloor rounded - pageFloor framebuffer.physicalStart) / BootContract.pageSize).toNat
    rw [hpages]
    omega

/-! ## The framebuffer -/

theorem u32TryFrom_eq_ok {value : UInt64} {word : UInt32} (h : u32TryFrom value = .ok word) :
    word.toNat = value.toNat := by
  unfold u32TryFrom at h
  split at h
  · rename_i hlt
    obtain rfl := Except.ok.inj h
    rw [UInt64.toNat_toUInt32, Nat.mod_eq_of_lt hlt]
  · cases h

/-- A captured mode is a framebuffer that the kernel can draw on. -/
theorem captureMode_ok {mode : GraphicsMode} {format : UInt32}
    (hformat : format = pixelFormatRgb ∨ format = pixelFormatBgr)
    (h : captureMode mode format = .ok framebuffer) : FramebufferOk framebuffer := by
  unfold captureMode at h
  obtain ⟨hshape, h⟩ := rejectIf_bind_eq_ok.mp h
  obtain ⟨minimum, hminimum, h⟩ := okOr_bind_eq_ok.mp h
  obtain ⟨hbuffer, h⟩ := rejectIf_bind_eq_ok.mp h
  obtain ⟨width, hwidth, h⟩ := bind_eq_ok.mp h
  obtain ⟨height, hheight, h⟩ := bind_eq_ok.mp h
  obtain ⟨stride, hstride, h⟩ := bind_eq_ok.mp h
  obtain rfl := Except.ok.inj h
  obtain ⟨pixels, hpixels, hbytes⟩ := Option.bind_eq_some_iff.mp hminimum
  have hpixels := checkedMul_eq_some.mp hpixels
  have hbytes := checkedMul_eq_some.mp hbytes
  push Not at hshape hbuffer
  obtain ⟨hwidthNe, hheightNe, hstrideLe⟩ := hshape
  obtain ⟨hstart, hlong, hinside⟩ := hbuffer
  rw [UInt64.lt_iff_toNat_lt] at hstrideLe hlong
  have hwidth := u32TryFrom_eq_ok hwidth
  have hheight := u32TryFrom_eq_ok hheight
  have hstride := u32TryFrom_eq_ok hstride
  have hfour : (4 : UInt64).toNat = 4 := rfl
  have hsome : ¬ 2 ^ 64 ≤ mode.bufferAddress.toNat + mode.bufferSize.toNat :=
    mt checkedAdd_eq_none.mpr hinside
  constructor
  · exact hstart
  · exact toNat_pos_u32.mp (hwidth ▸ Nat.pos_of_ne_zero fun h => hwidthNe (UInt64.toNat_inj.mp h))
  · exact toNat_pos_u32.mp (hheight ▸ Nat.pos_of_ne_zero fun h => hheightNe (UInt64.toNat_inj.mp h))
  · rw [hwidth, hstride]
    exact not_lt.mp hstrideLe
  · rfl
  · exact hformat
  · rw [hfour] at hbytes
    show stride.toNat * height.toNat * 4 ≤ mode.bufferSize.toNat
    rw [hstride, hheight, ← hpixels, ← hbytes]
    exact not_lt.mp hlong
  · exact not_le.mp hsome

/-- What `capture_framebuffer` returns: no framebuffer, or one that the kernel can draw on. -/
theorem captureFramebuffer_ok {graphics : Option GraphicsMode}
    (h : captureFramebuffer graphics = .ok framebuffer) :
    framebuffer = .default ∨ FramebufferOk framebuffer := by
  unfold captureFramebuffer at h
  split at h
  · exact .inl (Except.ok.inj h).symm
  · split at h
    · exact .inr (captureMode_ok (.inl rfl) h)
    · exact .inr (captureMode_ok (.inr rfl) h)
    · exact .inl (Except.ok.inj h).symm
    · exact .inl (Except.ok.inj h).symm

/-! ## What is not usable -/

section Overlay

variable {sources : List SourceMemoryRegion} {output : List MemoryRegion} {x : Nat}

/-- A frame that an override of another kind contains is not usable. -/
theorem not_usable_of_override (hmaps : MapsOk sources overrides)
    (hcanonical : CanonicalOverlay sources overrides output) {o : MemoryRegionOverride}
    (ho : o ∈ overrides) (hkind : o.kind ≠ memoryUsable) (hx : o.region.span.Has x) :
    x ∉ usableFrames output := by
  rintro ⟨r, hr, husable, hhas⟩
  have hat := hcanonical.kindAt_eq_some.mpr ⟨r, hr, hhas, husable⟩
  obtain ⟨s, hs, hsx⟩ := hcanonical.frames.mp ⟨r, hr, hhas⟩
  rw [hcanonical.kinds, hmaps.overlaid_override hs hsx ho hx] at hat
  exact hkind (Option.some.inj hat)

/-- A frame that a source of another kind contains is not usable, if no override makes it so. -/
theorem not_usable_of_source (hmaps : MapsOk sources overrides)
    (hcanonical : CanonicalOverlay sources overrides output) {s : SourceMemoryRegion}
    (hs : s ∈ sources) (hkind : s.kind ≠ memoryUsable) (hx : s.region.span.Has x)
    (hnone : ∀ o ∈ overrides, o.kind ≠ memoryUsable) : x ∉ usableFrames output := by
  by_cases hcovered : ∃ o ∈ overrides, o.region.span.Has x
  · obtain ⟨o, ho, hox⟩ := hcovered
    exact not_usable_of_override hmaps hcanonical ho (hnone o ho) hox
  · push Not at hcovered
    rintro ⟨r, hr, husable, hhas⟩
    have hat := hcanonical.kindAt_eq_some.mpr ⟨r, hr, hhas, husable⟩
    rw [hcanonical.kinds, hmaps.overlaid_source hs hx hcovered] at hat
    exact hkind (Option.some.inj hat)

end Overlay

/-! ## A kernel that was entered -/

variable {entered : Entered}

/-- What the loader has done when it enters the kernel. -/
structure Prepared (firmware : Firmware) (kernelBytes : ImageBytes) (entered : Entered)
    (overrides : List MemoryRegionOverride) (output : Vector MemoryRegion maxMemoryRegions) (count : Nat) :
    Prop where
  kernel : IsKernelImage kernelBytes.data
  shape : entered.handoff.framebuffer = .default ∨ FramebufferOk entered.handoff.framebuffer
  handoff : entered.handoff =
    loaderHandoff entered.handoff.framebuffer entered.handoff.memoryRegionsAddress count
  added : addFramebufferOverride entered.handoff.framebuffer
    ((loadHeaders kernelBytes.data).map fun header => kernelOverride header.segment) = .ok overrides
  normalized : (normalizeMemoryRegions (mapSources firmware) (sortOverrides overrides)).run
    (Vector.replicate maxMemoryRegions ⟨0, 0, 0, 0⟩) = (.ok count, output)
  regions : entered.regions = live output count

theorem prepared_of_entered (h : loadAndEnterKernel firmware = .ok entered) :
    ∃ kernelBytes, firmware.kernelFile = .ok kernelBytes ∧
      ∃ overrides output count, Prepared firmware kernelBytes entered overrides output count := by
  unfold loadAndEnterKernel at h
  obtain ⟨kernelBytes, hread, h⟩ := bind_eq_ok.mp h
  obtain ⟨image, hparse, h⟩ := bind_eq_ok.mp h
  obtain ⟨kernelOverrides, hcollect, h⟩ := bind_eq_ok.mp h
  obtain ⟨-, h⟩ := unit_bind_eq_ok.mp h
  obtain ⟨framebuffer, hcapture, h⟩ := bind_eq_ok.mp h
  obtain ⟨overrides, hadd, h⟩ := bind_eq_ok.mp h
  obtain ⟨handoffAddress, -, h⟩ := bind_eq_ok.mp h
  obtain ⟨regionStorage, -, h⟩ := bind_eq_ok.mp h
  obtain ⟨size, -, hread⟩ := bind_eq_ok.mp hread
  obtain ⟨-, hread⟩ := rejectIf_bind_eq_ok.mp hread
  rw [orStop, mapError_eq_ok] at hread
  rw [mapError_eq_ok] at hparse
  rw [collectKernelOverrides_ok hparse hcollect] at hadd
  split at h
  · cases h
  · rename_i count output hrun
    obtain rfl := Except.ok.inj h
    exact ⟨kernelBytes, hread, overrides, output, count, parse_iff.mp ⟨image, hparse⟩,
      captureFramebuffer_ok hcapture, rfl, hadd, hrun, rfl⟩

namespace Prepared

variable {output : Vector MemoryRegion maxMemoryRegions} {count : Nat}

theorem mapsOk (h : Prepared firmware kernelBytes entered overrides output count) :
    MapsOk (mapSources firmware) (sortOverrides overrides) :=
  (normalize_ok h.normalized).2.1

theorem count_le (h : Prepared firmware kernelBytes entered overrides output count) :
    count ≤ maxMemoryRegions :=
  (normalize_ok h.normalized).2.2.2.1

theorem canonical (h : Prepared firmware kernelBytes entered overrides output count) :
    CanonicalOverlay (mapSources firmware) (sortOverrides overrides) entered.regions :=
  h.regions ▸ (normalize_ok h.normalized).2.2.2.2

/-- No override of the loader makes memory usable. -/
theorem kinds_ne (h : Prepared firmware kernelBytes entered overrides output count) :
    ∀ o ∈ sortOverrides overrides, o.kind ≠ memoryUsable := by
  intro o ho
  have hmem : o ∈ overrides := (List.perm_insertionSort _ _).mem_iff.mp ho
  rcases (addFramebufferOverride_ok h.added).2.1 o hmem with hkernel | hmmio
  · obtain ⟨header, -, rfl⟩ := List.mem_map.mp hkernel
    show memoryReserved ≠ memoryUsable
    decide
  · rw [hmmio]
    decide

/-- A frame that one of the overrides contains is not usable. -/
theorem not_usable {o : MemoryRegionOverride} {x : Nat}
    (h : Prepared firmware kernelBytes entered overrides output count) (ho : o ∈ overrides)
    (hx : o.region.span.Has x) : x ∉ usableFrames entered.regions := by
  have hmem : o ∈ sortOverrides overrides := (List.perm_insertionSort _ _).mem_iff.mpr ho
  exact not_usable_of_override h.mapsOk h.canonical hmem (h.kinds_ne o hmem) hx

/-- Neither is a page of loader data. -/
theorem loader_not_usable {address : UInt64} {pages x : Nat}
    (h : Prepared firmware kernelBytes entered overrides output count)
    (hpages : LoaderPages firmware address pages) (hlow : frameNumber address ≤ x)
    (hhigh : x < frameNumber address + pages) : x ∉ usableFrames entered.regions := by
  obtain ⟨descriptor, hmem, hty, hhas⟩ := hpages.listed x hlow hhigh
  have hsource : descriptor.source ∈ mapSources firmware :=
    List.mem_map_of_mem ((List.perm_insertionSort _ _).mem_iff.mpr hmem)
  refine not_usable_of_source h.mapsOk h.canonical hsource ?_ hhas h.kinds_ne
  show memoryKind descriptor.ty ≠ memoryUsable
  rw [hty]
  decide

/-- The last page of loader data ends below the end of the address space. -/
theorem loader_inside {address : UInt64} {pages : Nat}
    (h : Prepared firmware kernelBytes entered overrides output count)
    (hpages : LoaderPages firmware address pages) (hsome : 0 < pages) :
    address.toNat + pages * 4096 < 2 ^ 64 := by
  obtain ⟨descriptor, hmem, -, hhas⟩ :=
    hpages.listed (frameNumber address + (pages - 1)) (Nat.le_add_right _ _) (by omega)
  have hsource : descriptor.source ∈ mapSources firmware :=
    List.mem_map_of_mem ((List.perm_insertionSort _ _).mem_iff.mpr hmem)
  have hok := h.mapsOk.source hsource
  have hstart := hok.start_eq
  have hinside := hok.inside
  have haligned := hpages.aligned
  have hstop : frameNumber address + (pages - 1) <
      (pageSpan descriptor.source.physicalStart descriptor.source.pageCount).first +
        descriptor.source.pageCount.toNat := hhas.2
  unfold frameNumber at hstop
  omega

/-- No byte that the kernel needs lies in a usable frame. -/
theorem kept_not_usable {byte : Nat}
    (h : Prepared firmware kernelBytes entered overrides output count)
    (hhandoff : LoaderPages firmware entered.handoffAddress 1)
    (hstorage : LoaderPages firmware entered.handoff.memoryRegionsAddress regionStoragePages)
    (hbyte : byte ∈ keptBytes kernelBytes entered) :
    byte / 4096 ∉ usableFrames entered.regions := by
  have hadded := addFramebufferOverride_ok h.added
  rcases hbyte with ((⟨header, hmem, hpages⟩ | ⟨hlow, hhigh⟩) | ⟨hlow, hhigh⟩) | ⟨hlow, hhigh⟩
  · refine h.not_usable (hadded.1 _ (List.mem_map_of_mem hmem)) ?_
    exact kernelOverride_has (h.kernel.loadable header hmem) hpages
  · obtain ⟨o, ho, hhas⟩ := hadded.2.2 byte hlow hhigh
    exact h.not_usable ho hhas
  · have haligned := hhandoff.aligned
    refine h.loader_not_usable hhandoff ?_ ?_ <;>
    · unfold frameNumber handoffSize at *
      omega
  · have haligned := hstorage.aligned
    have hlength : entered.regions.length ≤ 1024 := by
      rw [h.regions, length_live h.count_le]
      exact h.count_le
    have hpages : regionStoragePages = 6 := by decide
    refine h.loader_not_usable hstorage ?_ ?_ <;>
    · unfold frameNumber regionSize at *
      omega

/-- The pages of a kernel segment are in a region that is not usable. -/
theorem reserved_region (h : Prepared firmware kernelBytes entered overrides output count) :
    ∃ r ∈ entered.regions, r.kind ≠ memoryUsable := by
  obtain ⟨header, hmem⟩ := List.exists_mem_of_ne_nil _ h.kernel.nonempty
  have hloadable := h.kernel.loadable header hmem
  have hbyte : header.physicalStart.toNat ∈ header.segment.pages := by
    have hsize := hloadable.memorySize_ne
    refine ⟨le_refl _, ?_⟩
    show header.physicalStart.toNat <
      header.physicalStart.toNat + (header.memorySize.toNat + 4095) / 4096 * 4096
    omega
  have hhas := kernelOverride_has hloadable hbyte
  have ho := (addFramebufferOverride_ok h.added).1 _ (List.mem_map_of_mem hmem)
  have hsorted : kernelOverride header.segment ∈ sortOverrides overrides :=
    (List.perm_insertionSort _ _).mem_iff.mpr ho
  -- the loader asks for the whole segment to be in the map
  have hcovered := (normalize_ok h.normalized).2.2.1 _ hsorted rfl _ hhas
  obtain ⟨r, hr, hrx⟩ := h.canonical.frames.mpr hcovered
  exact ⟨r, hr, fun husable => h.not_usable ho hhas ⟨r, hr, husable, hrx⟩⟩

theorem length_regions (h : Prepared firmware kernelBytes entered overrides output count) :
    entered.regions.length = count := by
  rw [h.regions, length_live h.count_le]

theorem count_pos (h : Prepared firmware kernelBytes entered overrides output count) : 0 < count := by
  rw [← h.length_regions]
  exact List.length_pos_of_ne_nil (h.canonical.ne_nil h.mapsOk (normalize_ok h.normalized).1)

theorem toNat_count (h : Prepared firmware kernelBytes entered overrides output count) :
    entered.handoff.memoryRegionCount.toNat = count := by
  have hcount := h.count_le
  rw [congrArg BootHandoff.memoryRegionCount h.handoff]
  exact UInt32.toNat_ofNat_of_lt' (hcount.trans_lt (by decide))

/-- The flag says whether there is a framebuffer. -/
theorem hasFramebuffer_iff (h : Prepared firmware kernelBytes entered overrides output count) :
    entered.handoff.hasFramebuffer = true ↔ entered.handoff.framebuffer.isZero = false := by
  rw [BootHandoff.hasFramebuffer, congrArg BootHandoff.header h.handoff]
  cases hzero : entered.handoff.framebuffer.isZero with
  | true => simp [loaderHandoff, hzero, BootHandoffHeader.new]
  | false => simp [loaderHandoff, hzero, framebufferPresent]

theorem headerOk (h : Prepared firmware kernelBytes entered overrides output count) :
    HeaderOk entered.handoff.header := by
  rw [congrArg BootHandoff.header h.handoff]
  unfold loaderHandoff
  dsimp only
  split <;> exact ⟨rfl, by decide⟩

theorem framebufferOk (h : Prepared firmware kernelBytes entered overrides output count) :
    FramebufferShapeOk entered.handoff := by
  unfold FramebufferShapeOk
  split
  · rename_i hpresent
    rcases h.shape with hdefault | hok
    · rw [h.hasFramebuffer_iff, hdefault] at hpresent
      cases hpresent
    · exact hok
  · rename_i habsent
    rwa [h.hasFramebuffer_iff, Bool.not_eq_false] at habsent

theorem aligned_record {address : UInt64} (h : address.toNat % 4096 = 0) :
    address % recordAlignment = 0 := by
  rw [← UInt64.toNat_inj, UInt64.toNat_mod]
  show address.toNat % 8 = 0
  omega

/-- The handoff passes every check of the kernel. -/
theorem accepted (h : Prepared firmware kernelBytes entered overrides output count)
    (hhandoff : LoaderPages firmware entered.handoffAddress 1)
    (hstorage : LoaderPages firmware entered.handoff.memoryRegionsAddress regionStoragePages) :
    validateHandoff entered.handoff entered.handoffAddress entered.handoff.memoryRegionsAddress
      entered.regions = .ok () := by
  have hpages : regionStoragePages = 6 := by decide
  have hhandoffIn := h.loader_inside hhandoff (by decide)
  have hstorageIn := h.loader_inside hstorage (by decide)
  rw [hpages] at hstorageIn
  have hcount : count ≤ 1024 := h.count_le
  have hlength := h.length_regions
  have hcountNat := h.toNat_count
  have hkept : ∀ byte ∈ keptBytes kernelBytes entered, byte / 4096 ∉ usableFrames entered.regions :=
    fun byte => h.kept_not_usable hhandoff hstorage
  have hbytes : (UInt64.ofNat (entered.regions.length * 24)).toNat = entered.regions.length * 24 :=
    UInt64.toNat_ofNat_of_lt' (show entered.regions.length * 24 < 2 ^ 64 by omega)
  have hrecord : (88 : UInt64).toNat = 88 := rfl
  rw [validateHandoff_eq_ok]
  constructor
  · constructor
    · exact h.headerOk
    · exact hcountNat ▸ h.count_pos
    · exact hcountNat ▸ hcount
    · exact hstorage.nonzero
    · exact aligned_record hstorage.aligned
    · exact congrArg BootHandoff.memoryRegionEntrySize h.handoff
    · omega
    · exact h.framebufferOk
  · exact hhandoff.nonzero
  · exact aligned_record hhandoff.aligned
  · omega
  · exact hlength.trans hcountNat.symm
  · rfl
  · exact h.canonical.toRegionsOk
  · intro byte hlow hhigh
    rw [toNat_add_of_lt (by omega), hrecord] at hhigh
    exact hkept byte (.inl (.inr ⟨hlow, hhigh⟩))
  · intro byte hlow hhigh
    rw [toNat_add_of_lt (by omega), hbytes] at hhigh
    exact hkept byte (.inr ⟨hlow, hhigh⟩)
  · intro hpresent byte hlow hhigh
    have hshape := h.framebufferOk
    rw [FramebufferShapeOk, if_pos hpresent] at hshape
    rw [toNat_add_of_lt hshape.inside] at hhigh
    exact hkept byte (.inl (.inl (.inr ⟨hlow, hhigh⟩)))

end Prepared

/-- Whenever the loader enters the kernel, and the memory map lists the pages of the handoff and of the
regions as loader data: the kernel accepts the handoff, the frame allocator starts on its regions, and
no frame that it hands out from then on shares a byte with a page of a kernel segment, the
framebuffer, the handoff or the regions. -/
theorem boot_memory_kept (firmware : Firmware) (kernelBytes : ImageBytes) (entered : Entered)
    (hfile : firmware.kernelFile = .ok kernelBytes)
    (hload : loadAndEnterKernel firmware = .ok entered)
    (hhandoff : LoaderPages firmware entered.handoffAddress 1)
    (hstorage : LoaderPages firmware entered.handoff.memoryRegionsAddress regionStoragePages) :
    validateHandoff entered.handoff entered.handoffAddress entered.handoff.memoryRegionsAddress
        entered.regions = .ok () ∧
      ∀ fa, ∃ fa', (FrameAllocator.initializeRegions entered.regions).run fa = (.ok (), fa') ∧
        ∀ since fa'', Steps allocatorSystem fa' since fa'' → (∀ e ∈ since, ¬ e.Restarts) →
          ∀ address, .allocated (.ok address) ∈ since →
            Disjoint (frameBytes address) (keptBytes kernelBytes entered) := by
  obtain ⟨file, hread, overrides, output, count, hprepared⟩ := prepared_of_entered hload
  obtain rfl : file = kernelBytes := Except.ok.inj (hread.symm.trans hfile)
  have haccepted := hprepared.accepted hhandoff hstorage
  refine ⟨haccepted, fun fa => ?_⟩
  obtain ⟨fa', hstarted⟩ := initialize_ok_iff.mpr (manageable_of_handoff haccepted)
  refine ⟨fa', hstarted, fun since fa'' hsteps hsince address hmem => ?_⟩
  obtain ⟨haligned, husable⟩ :=
    (initialized_stands hstarted).handed_out hsteps hsince hmem
  rw [Set.disjoint_left]
  rintro byte ⟨hlow, hhigh⟩ hkept
  have hframe : byte / 4096 = frameNumber address := by
    unfold frameNumber
    omega
  refine hprepared.kept_not_usable hhandoff hstorage hkept ?_
  rw [hframe]
  exact husable

/-- A firmware with the small kernel, no graphics, and a map of three entries. -/
def smallFirmware : Firmware where
  kernelFileSize := .ok 120
  kernelFile := .ok smallImage
  allocateAddress _ _ := .ok ()
  graphics := none
  handoffPage := .ok 0x300000
  regionStorage := .ok 0x301000
  memoryMap :=
    [⟨.loaderData, 0x300000, 16⟩, ⟨.conventional, 0x1000, 16⟩, ⟨.loaderData, 0x100000, 16⟩]

theorem smallFirmware_pages {address : UInt64} {pages : Nat} (hnonzero : address ≠ 0)
    (haligned : address.toNat % 4096 = 0) (hlow : 0x300 ≤ frameNumber address)
    (hhigh : frameNumber address + pages ≤ 0x310) : LoaderPages smallFirmware address pages := by
  refine ⟨hnonzero, haligned, fun frame hge hlt => ?_⟩
  refine ⟨⟨.loaderData, 0x300000, 16⟩, List.mem_cons_self, rfl, ?_⟩
  show 0x300 ≤ frame ∧ frame < 0x300 + 16
  omega

/-- The first frame that the kernel allocates is the lowest conventional one, and none of its bytes is
one that the kernel needs. -/
theorem small_boot_memory_kept :
    ∃ entered fa fa', loadAndEnterKernel smallFirmware = .ok entered ∧
      validateHandoff entered.handoff entered.handoffAddress entered.handoff.memoryRegionsAddress
        entered.regions = .ok () ∧
      (FrameAllocator.initializeRegions entered.regions).run .new = (.ok (), fa) ∧
      FrameAllocator.allocateFrame.run fa = (.ok 0x1000, fa') ∧
      Disjoint (frameBytes 0x1000) (keptBytes smallImage entered) := by
  have hevaluated : (loadAndEnterKernel smallFirmware).map
      (fun entered => (entered.handoffAddress, entered.handoff.memoryRegionsAddress,
        (FrameAllocator.allocateFrame.run
          ((FrameAllocator.initializeRegions entered.regions).run .new).2).1)) =
        .ok (0x300000, 0x301000, .ok 0x1000) := by
    decide +kernel
  obtain ⟨entered, hload, hvalues⟩ := map_eq_ok.mp hevaluated
  obtain ⟨hhandoff, hrest⟩ := Prod.mk.inj hvalues
  obtain ⟨hstorage, hallocated⟩ := Prod.mk.inj hrest
  obtain ⟨haccepted, hkept⟩ := boot_memory_kept smallFirmware smallImage entered rfl hload
    (by rw [hhandoff]; exact smallFirmware_pages (by decide) (by decide) (by decide) (by decide))
    (by rw [hstorage]; exact smallFirmware_pages (by decide) (by decide) (by decide) (by decide))
  obtain ⟨fa, hstarted, hapart⟩ := hkept .new
  rw [hstarted] at hallocated
  have hstep : allocatorSystem.step fa (.allocated (.ok 0x1000)) _ :=
    Method.run_eq_of_result hallocated
  exact ⟨entered, fa, _, hload, haccepted, hstarted, hstep, hapart [.allocated (.ok 0x1000)] _
    (.cons hstep .nil) (by simp [AllocatorEvent.Restarts]) _ List.mem_cons_self⟩

end MakopaVerified.Boot
