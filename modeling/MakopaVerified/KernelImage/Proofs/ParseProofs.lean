import MakopaVerified.KernelImage.Proofs.SegmentProofs

/-!
# Parsing a kernel image

`parse` accepts exactly the kernel images, and what it accepts can be used: the iterator yields the
load segments, their bytes are in the file and their pages are apart.
-/

namespace MakopaVerified.KernelImage

open Foundation

variable {bytes : ImageBytes} {image : ValidatedImage}

/-! ## Acceptance -/

theorem toNat_u16 {data : List UInt8} {offset : Nat} :
    (UInt16.ofNat (leAt data offset 2)).toNat = leAt data offset 2 :=
  UInt16.toNat_ofNat_of_lt' (leAt_lt data offset 2)

theorem toNat_u32 {data : List UInt8} {offset : Nat} :
    (UInt32.ofNat (leAt data offset 4)).toNat = leAt data offset 4 :=
  UInt32.toNat_ofNat_of_lt' (leAt_lt data offset 4)

theorem toNat_u64 {data : List UInt8} {offset : Nat} :
    (UInt64.ofNat (leAt data offset 8)).toNat = leAt data offset 8 :=
  UInt64.toNat_ofNat_of_lt' (leAt_lt data offset 8)

/-- The image that `parse` makes of a file. -/
def imageOf (bytes : ImageBytes) : ValidatedImage :=
  ⟨bytes, entryPoint bytes.data, tableOffset bytes.data, tableLength bytes.data⟩

theorem parse_eq_ok :
    ValidatedImage.parse bytes = .ok image ↔
      ElfHeader bytes.data ∧ tableLength bytes.data ≠ 0 ∧
        (imageOf bytes).validateSegments = .ok () ∧ image = imageOf bytes := by
  unfold ValidatedImage.parse
  rw [rejectIf_bind_eq_ok]
  by_cases hshort : bytes.len < elfHeaderSize
  · refine iff_of_false (fun h => h.1 hshort) fun h => ?_
    exact absurd h.1.long (not_le.mpr hshort)
  have hlong : 64 ≤ bytes.len := not_lt.mp hshort
  rw [rejectIf_bind_eq_ok, rejectIf_bind_eq_ok, rejectIf_bind_eq_ok, rejectIf_bind_eq_ok,
    bind_of_ok (readU32_ok (by omega)), rejectIf_bind_eq_ok, bind_of_ok (readU16_ok (by omega)),
    rejectIf_bind_eq_ok, bind_of_ok (readU16_ok (by omega)), rejectIf_bind_eq_ok,
    bind_of_ok (readU16_ok (by omega)), rejectIf_bind_eq_ok, bind_of_ok (readU16_ok (by omega)),
    rejectIf_bind_eq_ok, bind_of_ok (readU16_ok (by omega)), rejectIf_bind_eq_ok,
    bind_of_ok (readU64_ok (by omega)), toNat_u16, toNat_u16, toNat_u16, toNat_u64]
  have hcount : tableLength bytes.data < 2 ^ 16 := leAt_lt _ _ _
  have hmul : okOr (usizeMul programHeaderSize (leAt bytes.data 56 2)) ImageError.arithmeticOverflow =
      .ok (programHeaderSize * tableLength bytes.data) :=
    okOr_eq_ok.mpr (usizeMul_eq_some.mpr ⟨by unfold tableLength programHeaderSize at *; omega, rfl⟩)
  have hmagic : getRange bytes.data 0 4 = some (bytes.data.take 4) :=
    getRange_of_le (Nat.zero_le _) (by unfold ImageBytes.len at hlong; omega)
  have hentry : readU64 bytes 24 = .ok (entryPoint bytes.data) := readU64_ok (by omega)
  rw [bind_of_ok hmul, okOr_bind_eq_ok]
  simp only [usizeAdd_eq_some, rejectIf_bind_eq_ok, bind_of_ok hentry, hmagic, not_not, Option.some.injEq, ← UInt16.toNat_inj, ← UInt32.toNat_inj,
    toNat_u16, toNat_u32]
  have hlen : bytes.len < 2 ^ 63 := bytes.length_lt
  constructor
  · rintro ⟨-, hmagic, hword, horder, hident, hversion, htype, hmachine, hheader, hentry, hsome,
      _, ⟨-, rfl⟩, hinside, hrest⟩
    obtain ⟨hvalid, himage⟩ := unit_bind_eq_ok.mp hrest
    exact ⟨⟨hlong, hmagic, hword, horder, hident, hversion, htype, hmachine, hheader, hentry,
      not_lt.mp hinside⟩, hsome, hvalid, (Except.ok.inj himage).symm⟩
  · rintro ⟨⟨-, hmagic, hword, horder, hident, hversion, htype, hmachine, hheader, hentry, hinside⟩,
      hsome, hvalid, rfl⟩
    refine ⟨hshort, hmagic, hword, horder, hident, hversion, htype, hmachine, hheader, hentry, hsome,
      _, ⟨?_, rfl⟩, not_lt.mpr hinside, unit_bind_eq_ok.mpr ⟨hvalid, rfl⟩⟩
    have hfits : tableOffset bytes.data + programHeaderSize * tableLength bytes.data < 2 ^ 64 := by
      unfold ImageBytes.len at hlen
      omega
    exact hfits

/-- `parse` accepts the kernel images. -/
theorem parse_iff : (∃ image, ValidatedImage.parse bytes = .ok image) ↔ IsKernelImage bytes.data := by
  simp only [parse_eq_ok]
  constructor
  · rintro ⟨_, helf, -, hvalid, -⟩
    have htable : (imageOf bytes).TableInside := helf.tableInside
    obtain ⟨hloads, hsome, henters⟩ := (validateSegments_eq_ok htable).mp hvalid
    exact ⟨helf, hloads, hsome, henters⟩
  · intro h
    have htable : (imageOf bytes).TableInside := h.tableInside
    refine ⟨imageOf bytes, h.toElfHeader, fun hzero => h.nonempty ?_,
      (validateSegments_eq_ok htable).mpr ⟨h.toLoadsOk, h.nonempty, h.enters⟩, rfl⟩
    rw [loadHeaders, hzero]
    rfl

/-! ## The iterator -/

/-- An iterator yields what another one yields that returns the same next. -/
theorem Segments.Yields.of_next {segments segments' : Segments} {found : List Segment}
    (h : segments'.Yields found) (hnext : segments.next = segments'.next) : segments.Yields found := by
  cases h with
  | done hdone => exact .done (hnext.trans hdone)
  | more hmore hrest => exact .more (hnext.trans hmore) hrest

/-- With `left` headers to go, the iterator yields the segments of those that are load headers. -/
theorem yields_from (htable : image.TableInside)
    (hloadable : ∀ header ∈ image.loads image.programHeaderCount, header.Loadable image.bytes.len)
    {left index : Nat} (hleft : index + left = image.programHeaderCount) :
    Segments.Yields ⟨image, index⟩ ((((List.range' index left).map image.header).filter
      (·.kind = programHeaderLoad)).map ProgramHeader.segment) := by
  induction left generalizing index with
  | zero =>
    refine .done (show _ = Except.ok (none, ⟨image, index⟩) from ?_)
    rw [Segments.next, show image.programHeaderCount - index = 0 by omega]
    rfl
  | succ left ih =>
    have hmore : image.programHeaderCount - index = left + 1 := by omega
    have hless : image.programHeaderCount - (index + 1) = left := by omega
    have hindex : index < image.programHeaderCount := by omega
    have hrest := ih (show index + 1 + left = image.programHeaderCount by omega)
    rw [List.range'_succ, List.map_cons]
    by_cases hkind : (image.header index).kind = programHeaderLoad
    · have hmem : image.header index ∈ image.loads image.programHeaderCount :=
        List.mem_filter.mpr ⟨List.mem_map.mpr ⟨index, List.mem_range.mpr hindex, rfl⟩,
          decide_eq_true hkind⟩
      have hat : image.segmentAt index = .ok (some (image.header index).segment) := by
        rw [segmentAt_eq_ok htable hindex, if_pos hkind]
        exact ⟨hloadable _ hmem, rfl⟩
      rw [List.filter_cons_of_pos (by simpa using hkind), List.map_cons]
      refine .more ?_ hrest
      rw [Segments.next, hmore, Segments.nextFrom, hat]
    · have hat : image.segmentAt index = .ok none := by
        rw [segmentAt_eq_ok htable hindex, if_neg hkind]
      rw [List.filter_cons_of_neg (by simpa using hkind)]
      refine hrest.of_next ?_
      rw [Segments.next, Segments.next, hmore, hless, Segments.nextFrom, hat]

/-- So the iterator of a parsed image yields the segments of the load headers. -/
theorem parse_yields (hparse : ValidatedImage.parse bytes = .ok image) :
    image.segments.Yields ((loadHeaders bytes.data).map ProgramHeader.segment) := by
  have hkernel := parse_iff.mp ⟨image, hparse⟩
  obtain ⟨helf, -, -, rfl⟩ := parse_eq_ok.mp hparse
  have htable : (imageOf bytes).TableInside := helf.tableInside
  have hyields := yields_from htable hkernel.loadable (Nat.zero_add _)
  rwa [← List.range_eq_range'] at hyields

/-- With enough rounds a loop over the iterator goes through all that it yields. -/
theorem Segments.Yields.collect {segments : Segments} {found : List Segment} {fuel : Nat}
    (h : segments.Yields found) (hfuel : found.length < fuel) :
    segments.collect fuel = .ok found := by
  induction h generalizing fuel with
  | done hdone =>
    cases fuel with
    | zero => cases hfuel
    | succ fuel => rw [Segments.collect, hdone]
  | more hmore _ ih =>
    cases fuel with
    | zero => cases hfuel
    | succ fuel =>
      have hrest := ih (Nat.lt_of_succ_lt_succ hfuel)
      rw [Segments.collect, hmore]
      exact congrArg (Except.map _) hrest

/-! ## What the segments are good for -/

/-- The bytes of a segment that can be loaded are in the file. -/
theorem fileBytes_of_loadable {header : ProgramHeader} (h : header.Loadable image.bytes.len) :
    ∃ part, image.fileBytes header.segment = some part ∧ part.length = header.fileSize.toNat ∧
      part = (image.bytes.data.drop header.segment.fileOffset).take header.segment.fileSize := by
  have hpart : image.fileBytes header.segment = some _ :=
    getRange_of_le (Nat.le_add_right _ _) h.inFile
  refine ⟨_, hpart, ?_, by rw [Nat.add_sub_cancel_left]⟩
  rw [length_of_getRange hpart, Nat.add_sub_cancel_left]
  rfl

/-- Segments that start on pages and are apart are apart in whole pages. -/
theorem pages_disjoint {header other : ProgramHeader} {fileLength : Nat}
    (h : header.Loadable fileLength) (h' : other.Loadable fileLength) (hapart : header.Apart other) :
    Disjoint header.segment.pages other.segment.pages := by
  have hpage := h.onPage
  have hpage' := h'.onPage
  rw [Set.disjoint_left]
  rintro x ⟨hstart, hstop⟩ ⟨hstart', hstop'⟩
  unfold Segment.pageCount at hstop hstop'
  unfold ProgramHeader.Apart ProgramHeader.memoryEnd at hapart
  dsimp only [ProgramHeader.segment] at *
  omega

/-- For every byte string: `parse` succeeds exactly on the kernel images. On those it returns the entry
point, the iterator yields the load segments in their order, the bytes of each are in the file, and no
two of them share a page. -/
theorem parse_accepts_kernel_images (bytes : ImageBytes) :
    ((∃ image, ValidatedImage.parse bytes = .ok image) ↔ IsKernelImage bytes.data) ∧
      ∀ image, ValidatedImage.parse bytes = .ok image →
        image.entry = entryPoint bytes.data ∧
        image.segments.Yields ((loadHeaders bytes.data).map ProgramHeader.segment) ∧
        (∀ segment ∈ (loadHeaders bytes.data).map ProgramHeader.segment,
          ∃ part, image.fileBytes segment = some part ∧ part.length = segment.fileSize ∧
            part = (bytes.data.drop segment.fileOffset).take segment.fileSize) ∧
        ((loadHeaders bytes.data).map ProgramHeader.segment).Pairwise
          fun segment other => Disjoint segment.pages other.pages := by
  refine ⟨parse_iff, fun image hparse => ?_⟩
  have hkernel := parse_iff.mp ⟨image, hparse⟩
  have hyields := parse_yields hparse
  obtain ⟨-, -, -, rfl⟩ := parse_eq_ok.mp hparse
  refine ⟨rfl, hyields, ?_, ?_⟩
  · rw [List.forall_mem_map]
    exact fun header hmem => fileBytes_of_loadable (hkernel.loadable header hmem)
  · rw [List.pairwise_map]
    exact hkernel.apart.imp_of_mem fun hmem hmem' hapart =>
      pages_disjoint (hkernel.loadable _ hmem) (hkernel.loadable _ hmem') hapart

/-- A file of one load header, which loads the whole file at the first megabyte. -/
def smallFile : List UInt8 :=
  elfMagic ++ [2, 1, 1] ++ List.replicate 9 0 ++ [2, 0, 62, 0, 1, 0, 0, 0] ++
    [0, 0, 0x10, 0, 0, 0, 0, 0] ++ [64, 0, 0, 0, 0, 0, 0, 0] ++ List.replicate 12 0 ++
    [64, 0, 56, 0, 1, 0, 0, 0, 0, 0, 0, 0] ++
    [1, 0, 0, 0, 5, 0, 0, 0] ++ List.replicate 8 0 ++ [0, 0, 0x10, 0, 0, 0, 0, 0] ++
    [0, 0, 0x10, 0, 0, 0, 0, 0] ++ [120, 0, 0, 0, 0, 0, 0, 0] ++ [0, 0x20, 0, 0, 0, 0, 0, 0] ++
    [0, 0x10, 0, 0, 0, 0, 0, 0]

def smallImage : ImageBytes := ⟨smallFile, by decide⟩

theorem small_file_parsed :
    ∃ image, ValidatedImage.parse smallImage = .ok image ∧
      image.segments.Yields [⟨0, 120, 0x100000, 0x2000, 5⟩] := by
  have hloads : (loadHeaders smallFile).map ProgramHeader.segment =
      [⟨0, 120, 0x100000, 0x2000, 5⟩] := by decide +kernel
  have hsome : (ValidatedImage.parse smallImage).map (fun _ => ()) = .ok () := by decide +kernel
  obtain ⟨image, hparse, -⟩ := map_eq_ok.mp hsome
  have hyields := ((parse_accepts_kernel_images smallImage).2 image hparse).2.1
  rw [show smallImage.data = smallFile from rfl, hloads] at hyields
  exact ⟨image, hparse, hyields⟩

end MakopaVerified.KernelImage
