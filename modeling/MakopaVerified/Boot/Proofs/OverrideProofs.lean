import MakopaVerified.Boot.Proofs.LoaderProofs

/-!
# Which kernels the memory map takes

The parser of the image checks where a segment ends in bytes, the overlay of the memory map where
its pages end. The two agree on every segment but those that reach into the last page.
-/

namespace MakopaVerified.Boot

open Foundation BootContract KernelImage

variable {kernelBytes : ImageBytes} {image : ValidatedImage} {overrides : List MemoryRegionOverride}
  {loads : List ProgramHeader} {fileLength : Nat}

theorem collectFrom_succeeds {segments : List Segment}
    (hfew : overrides.length + segments.length ≤ maximumLoadSegments) :
    ∃ result, collectFrom overrides segments = .ok result := by
  induction segments generalizing overrides with
  | nil => exact ⟨overrides, rfl⟩
  | cons segment segments ih =>
    rw [List.length_cons] at hfew
    have hrest : (overrides ++ [kernelOverride segment]).length + segments.length ≤
        maximumLoadSegments := by
      rw [List.length_append, List.length_singleton]
      omega
    obtain ⟨result, hresult⟩ := ih hrest
    exact ⟨result, rejectIf_bind_eq_ok.mpr ⟨by omega, hresult⟩⟩

theorem override_stop (o : MemoryRegionOverride) :
    o.region.span.stop = o.region.span.first + o.pageCount.toNat := rfl

/-- The override of a segment is well formed unless its pages end where the addresses do. -/
theorem kernelOverride_ok_iff {header : ProgramHeader} (h : header.Loadable fileLength) :
    RegionOk header.physicalStart (kernelOverride header.segment).pageCount memoryReserved ↔
      header.memoryEnd ≤ 2 ^ 64 - 4096 := by
  have hpages := toNat_pages header
  have hsize := h.memorySize_ne
  have hpage := h.onPage
  unfold ProgramHeader.memoryEnd
  constructor
  · intro hok
    have hinside := hok.inside
    omega
  · intro hend
    exact ⟨⟨hpage, by omega⟩, by decide, by omega⟩

/-- The overrides of segments that do not overlap have pages and share none. -/
theorem kernelOverrides_apart (h : LoadsOk loads fileLength) :
    (loads.map fun header => kernelOverride header.segment).Pairwise fun a b =>
      0 < a.pageCount.toNat ∧ 0 < b.pageCount.toNat ∧
        (a.region.span.stop ≤ b.region.span.first ∨ b.region.span.stop ≤ a.region.span.first) := by
  rw [List.pairwise_map]
  refine h.apart.imp_of_mem fun {header other} hmem hmem' hapart => ?_
  have hsize := (h.loadable _ hmem).memorySize_ne
  have hsize' := (h.loadable _ hmem').memorySize_ne
  have hpage := (h.loadable _ hmem).onPage
  have hpage' := (h.loadable _ hmem').onPage
  rw [override_stop, override_stop, toNat_pages, toNat_pages]
  unfold ProgramHeader.Apart ProgramHeader.memoryEnd at hapart
  show _ ∧ _ ∧ (header.physicalStart.toNat / 4096 + _ ≤ other.physicalStart.toNat / 4096 ∨
    other.physicalStart.toNat / 4096 + _ ≤ header.physicalStart.toNat / 4096)
  omega

/-- Once they are sorted, they follow one another. -/
theorem sortOverrides_ordered (h : LoadsOk loads fileLength) :
    (sortOverrides (loads.map fun header => kernelOverride header.segment)).Pairwise
      fun a b => a.region.span.stop ≤ b.region.span.first := by
  have hapart := ((List.perm_insertionSort (fun a b : MemoryRegionOverride =>
    a.physicalStart ≤ b.physicalStart) _).pairwise_iff
      fun hab => ⟨hab.2.1, hab.1, hab.2.2.symm⟩).mpr (kernelOverrides_apart h)
  refine ((List.pairwise_insertionSort _ _).and hapart).imp fun {a b} hab => ?_
  obtain ⟨hle, -, hb, hspans⟩ := hab
  -- The other order would leave `b` without a page.
  refine hspans.resolve_right fun hback => ?_
  have hfirst : a.region.span.first ≤ b.region.span.first := Nat.div_le_div_right hle
  rw [override_stop] at hback
  omega

/-- For every image that the parser accepts: the loader's table has room for the overrides, and the
memory map takes them, sorted, exactly when no segment ends in the last page of the addresses. -/
theorem kernel_overrides_accepted_iff (hparse : ValidatedImage.parse kernelBytes = .ok image) :
    ∃ overrides, collectKernelOverrides image = .ok overrides ∧
      (validateOverrides (sortOverrides overrides) = .ok () ↔
        ∀ header ∈ loadHeaders kernelBytes.data, header.memoryEnd ≤ 2 ^ 64 - 4096) := by
  have hkernel := parse_iff.mp ⟨image, hparse⟩
  have hfew : ([] : List MemoryRegionOverride).length +
      ((loadHeaders kernelBytes.data).map ProgramHeader.segment).length ≤ maximumLoadSegments := by
    rw [List.length_map, List.length_nil, Nat.zero_add]
    exact hkernel.few
  obtain ⟨overrides, hfrom⟩ := collectFrom_succeeds hfew
  have hcollect := bind_eq_ok.mpr ⟨_, loadedSegments_eq hparse, hfrom⟩
  obtain rfl := collectKernelOverrides_ok hparse hcollect
  refine ⟨_, hcollect, ?_⟩
  rw [validateOverrides_eq_ok]
  constructor
  · intro hok header hheader
    refine (kernelOverride_ok_iff (hkernel.loadable header hheader)).mp
      (hok.each _ (List.mem_map_of_mem (a := kernelOverride header.segment) ?_))
    exact (List.perm_insertionSort _ _).mem_iff.mpr (List.mem_map_of_mem hheader)
  · intro hends
    refine ⟨List.forall_mem_map.mpr fun o ho => ?_, List.forall_mem_map.mpr fun _ _ => rfl,
      List.pairwise_map.mpr (sortOverrides_ordered hkernel.toLoadsOk)⟩
    obtain ⟨header, hheader, rfl⟩ := List.mem_map.mp ((List.perm_insertionSort _ _).mem_iff.mp ho)
    exact (kernelOverride_ok_iff (hkernel.loadable header hheader)).mpr (hends header hheader)

theorem small_overrides_accepted :
    ∃ image overrides, ValidatedImage.parse smallImage = .ok image ∧
      collectKernelOverrides image = .ok overrides ∧
      validateOverrides (sortOverrides overrides) = .ok () := by
  have hsome : (ValidatedImage.parse smallImage).map (fun _ => ()) = .ok () := by decide +kernel
  obtain ⟨image, hparse, -⟩ := map_eq_ok.mp hsome
  obtain ⟨overrides, hcollect, haccepted⟩ := kernel_overrides_accepted_iff hparse
  exact ⟨image, overrides, hparse, hcollect, haccepted.mpr (by decide +kernel)⟩

/-- The small file, loaded up to the last address. -/
def lastPageFile : List UInt8 :=
  let start := [0, 0xe0, 0xff, 0xff, 0xff, 0xff, 0xff, 0xff]
  smallFile.take 24 ++ start ++ (smallFile.take 80).drop 32 ++ start ++ start ++
    (smallFile.take 104).drop 96 ++ [0xff, 0x1f, 0, 0, 0, 0, 0, 0] ++ smallFile.drop 112

def lastPageImage : ImageBytes := ⟨lastPageFile, by decide +kernel⟩

/-- The parser accepts it, and the end of its pages overflows in the memory map. -/
theorem last_page_refused :
    ∃ image overrides, ValidatedImage.parse lastPageImage = .ok image ∧
      collectKernelOverrides image = .ok overrides ∧
      validateOverrides (sortOverrides overrides) = .error .rangeOverflow := by
  have hevaluated : ((ValidatedImage.parse lastPageImage).mapError fun _ =>
      LoaderStop.status .loadError).bind (fun image => (collectKernelOverrides image).map
        fun overrides => validateOverrides (sortOverrides overrides)) =
      .ok (.error .rangeOverflow) := by decide +kernel
  obtain ⟨image, hparse, hcollected⟩ := bind_eq_ok.mp hevaluated
  obtain ⟨overrides, hcollect, hrefused⟩ := map_eq_ok.mp hcollected
  exact ⟨image, overrides, mapError_eq_ok.mp hparse, hcollect, hrefused⟩

end MakopaVerified.Boot
