import MakopaVerified.BootContract.Regions
import MakopaVerified.KernelImage.Format

/-!
# Reading the program headers

`segment_at` reads the header at its index, and returns a segment exactly when the header is a load
header that can be loaded. The two loops of `validate_segments` say so of all the headers before an
index.
-/

namespace MakopaVerified.KernelImage

open Foundation List

variable {bytes : ImageBytes} {image : ValidatedImage} {offset index count fileLength : Nat}
  {segment : Segment}

/-! ## Words of the file -/

theorem readLe_ok {width : Nat} (h : offset + width ≤ bytes.len) :
    readLe bytes offset width = .ok (leAt bytes.data offset width) := by
  rw [readLe, getRange_of_le (Nat.le_add_right _ _) h, Nat.add_sub_cancel_left]
  rfl

theorem readU16_ok (h : offset + 2 ≤ bytes.len) :
    readU16 bytes offset = .ok (UInt16.ofNat (leAt bytes.data offset 2)) := by
  rw [readU16, readLe_ok h]
  rfl

theorem readU32_ok (h : offset + 4 ≤ bytes.len) :
    readU32 bytes offset = .ok (UInt32.ofNat (leAt bytes.data offset 4)) := by
  rw [readU32, readLe_ok h]
  rfl

theorem readU64_ok (h : offset + 8 ≤ bytes.len) :
    readU64 bytes offset = .ok (UInt64.ofNat (leAt bytes.data offset 8)) := by
  rw [readU64, readLe_ok h]
  rfl

theorem isPowerOfTwo_iff {value : UInt64} : isPowerOfTwo value = true ↔ ∃ k, value.toNat = 2 ^ k := by
  rw [isPowerOfTwo, any_eq_true]
  constructor
  · rintro ⟨k, -, hk⟩
    exact ⟨k, of_decide_eq_true hk⟩
  · rintro ⟨k, hk⟩
    have hlt : 2 ^ k < 2 ^ 64 := hk ▸ toNat_lt value
    exact ⟨k, mem_range.mpr ((Nat.pow_lt_pow_iff_right (by decide)).mp hlt),
      decide_eq_true hk⟩

theorem usizeAdd_eq_some {a b c : Nat} : usizeAdd a b = some c ↔ a + b < 2 ^ 64 ∧ c = a + b := by
  rw [usizeAdd, Option.ite_none_right_eq_some, Option.some.injEq, eq_comm (a := c)]

theorem usizeMul_eq_some {a b c : Nat} : usizeMul a b = some c ↔ a * b < 2 ^ 64 ∧ c = a * b := by
  rw [usizeMul, Option.ite_none_right_eq_some, Option.some.injEq, eq_comm (a := c)]

/-! ## One header -/

/-- The header that `segment_at` reads. -/
def ValidatedImage.header (image : ValidatedImage) (index : Nat) : ProgramHeader :=
  headerAt image.bytes.data (image.programHeadersOffset + programHeaderSize * index)

/-- The table lies in the file. -/
def ValidatedImage.TableInside (image : ValidatedImage) : Prop :=
  image.programHeadersOffset + programHeaderSize * image.programHeaderCount ≤ image.bytes.len

/-- The checks on the fields of a load header. -/
theorem loadable_iff {header : ProgramHeader} (hfile : fileLength < 2 ^ 63) :
    header.Loadable fileLength ↔
      ¬ (header.memorySize < header.fileSize ∨ header.memorySize = 0) ∧
      ¬ header.virtualStart ≠ header.physicalStart ∧
      ¬ header.physicalStart < minimumLoadAddress ∧
      ¬ (header.physicalStart % pageSize ≠ 0 ∨ header.alignment < pageSize ∨
        isPowerOfTwo header.alignment = false ∨
        header.fileOffset % header.alignment ≠ header.virtualStart % header.alignment) ∧
      (header.fileOffset.toNat + header.fileSize.toNat < 2 ^ 64 ∧
        ¬ fileLength < header.fileOffset.toNat + header.fileSize.toNat) ∧
      ∃ memoryEnd, checkedAdd header.physicalStart header.memorySize = some memoryEnd := by
  have hzero : header.memorySize = 0 ↔ header.memorySize.toNat = 0 := UInt64.toNat_inj.symm
  have hpage : header.physicalStart % pageSize = 0 ↔ header.physicalStart.toNat % 4096 = 0 :=
    BootContract.mod_pageSize
  have hcongruent : header.fileOffset % header.alignment = header.virtualStart % header.alignment ↔
      header.fileOffset.toNat % header.alignment.toNat =
        header.virtualStart.toNat % header.alignment.toNat := by
    rw [← UInt64.toNat_inj, UInt64.toNat_mod, UInt64.toNat_mod]
  have hend : (∃ memoryEnd, checkedAdd header.physicalStart header.memorySize = some memoryEnd) ↔
      header.memoryEnd < 2 ^ 64 := by
    rw [← Option.isSome_iff_exists, ← Option.ne_none_iff_isSome, Ne, checkedAdd_eq_none, not_le]
    rfl
  have hmin : minimumLoadAddress.toNat = 0x100000 := rfl
  have hsize : pageSize.toNat = 4096 := rfl
  rw [hend]
  simp only [not_or, not_not, UInt64.lt_iff_toNat_lt, hzero, hpage, hcongruent, Bool.not_eq_false,
    isPowerOfTwo_iff, hmin, hsize, not_lt]
  constructor
  · rintro ⟨h₁, h₂, h₃, h₄, h₅, h₆, h₇, h₈, h₉, h₁₀⟩
    exact ⟨⟨h₁, h₂⟩, h₃, h₄, ⟨h₅, h₆, h₇, h₈⟩, ⟨by omega, h₉⟩, h₁₀⟩
  · rintro ⟨⟨h₁, h₂⟩, h₃, h₄, ⟨h₅, h₆, h₇, h₈⟩, ⟨-, h₉⟩, h₁₀⟩
    exact ⟨h₁, h₂, h₃, h₄, h₅, h₆, h₇, h₈, h₉, h₁₀⟩

/-- `segment_at` skips the headers that are not load headers, and returns a segment for a load header
exactly when it can be loaded. -/
theorem segmentAt_eq_ok {result : Option Segment} (htable : image.TableInside)
    (hindex : index < image.programHeaderCount) :
    image.segmentAt index = .ok result ↔
      if (image.header index).kind = programHeaderLoad then
        (image.header index).Loadable image.bytes.len ∧ result = some (image.header index).segment
      else result = none := by
  have hlen : image.bytes.len < 2 ^ 63 := image.bytes.length_lt
  unfold ValidatedImage.TableInside programHeaderSize at htable
  have hroom : image.programHeadersOffset + 56 * index + 56 ≤ image.bytes.len := by omega
  have hmul : okOr (usizeMul programHeaderSize index) ImageError.arithmeticOverflow =
      .ok (56 * index) := okOr_eq_ok.mpr (usizeMul_eq_some.mpr ⟨by unfold programHeaderSize; omega, rfl⟩)
  have hadd : okOr (usizeAdd image.programHeadersOffset (56 * index))
      ImageError.arithmeticOverflow = .ok (image.programHeadersOffset + 56 * index) :=
    okOr_eq_ok.mpr (usizeAdd_eq_some.mpr ⟨by omega, rfl⟩)
  have hheader : image.header index =
      headerAt image.bytes.data (image.programHeadersOffset + 56 * index) := rfl
  unfold ValidatedImage.segmentAt
  rw [hheader, bind_of_ok hmul, bind_of_ok hadd]
  generalize image.programHeadersOffset + 56 * index = offset at hroom ⊢
  have hread₀ : readU32 image.bytes offset = .ok (headerAt image.bytes.data offset).kind :=
    readU32_ok (by omega)
  have hread₄ : readU32 image.bytes (offset + 4) = .ok (headerAt image.bytes.data offset).flags :=
    readU32_ok (by omega)
  have hread₈ : readU64 image.bytes (offset + 8) = .ok (headerAt image.bytes.data offset).fileOffset :=
    readU64_ok (by omega)
  have hread₁₆ : readU64 image.bytes (offset + 16) =
      .ok (headerAt image.bytes.data offset).virtualStart := readU64_ok (by omega)
  have hread₂₄ : readU64 image.bytes (offset + 24) =
      .ok (headerAt image.bytes.data offset).physicalStart := readU64_ok (by omega)
  have hread₃₂ : readU64 image.bytes (offset + 32) =
      .ok (headerAt image.bytes.data offset).fileSize := readU64_ok (by omega)
  have hread₄₀ : readU64 image.bytes (offset + 40) =
      .ok (headerAt image.bytes.data offset).memorySize := readU64_ok (by omega)
  have hread₄₈ : readU64 image.bytes (offset + 48) =
      .ok (headerAt image.bytes.data offset).alignment := readU64_ok (by omega)
  generalize headerAt image.bytes.data offset = header at *
  rw [bind_of_ok hread₀]
  by_cases hkind : header.kind = programHeaderLoad
  · rw [if_neg (not_not.mpr hkind), if_pos hkind, bind_of_ok hread₄, bind_of_ok hread₈,
      bind_of_ok hread₁₆, bind_of_ok hread₂₄, bind_of_ok hread₃₂, bind_of_ok hread₄₀,
      bind_of_ok hread₄₈, loadable_iff hlen]
    simp only [rejectIf_bind_eq_ok, okOr_bind_eq_ok, usizeAdd_eq_some]
    constructor
    · rintro ⟨hsizes, hidentity, hhigh, haligned, _, ⟨hfit, rfl⟩, hinside, memoryEnd, hend, hresult⟩
      exact ⟨⟨hsizes, hidentity, hhigh, haligned, ⟨hfit, hinside⟩, memoryEnd, hend⟩,
        (Except.ok.inj hresult).symm⟩
    · rintro ⟨⟨hsizes, hidentity, hhigh, haligned, ⟨hfit, hinside⟩, memoryEnd, hend⟩, rfl⟩
      exact ⟨hsizes, hidentity, hhigh, haligned, _, ⟨hfit, rfl⟩, hinside, memoryEnd, hend, rfl⟩
  · rw [if_pos hkind, if_neg hkind]
    exact ⟨fun h => (Except.ok.inj h).symm, fun h => congrArg Except.ok h.symm⟩

/-! ## All headers before an index -/

/-- The load headers among the first `count`. -/
def ValidatedImage.loads (image : ValidatedImage) (count : Nat) : List ProgramHeader :=
  loadsUpTo image.bytes.data image.programHeadersOffset count

theorem loads_succ :
    image.loads (index + 1) = image.loads index ++
      if (image.header index).kind = programHeaderLoad then [image.header index] else [] := by
  unfold ValidatedImage.loads loadsUpTo
  rw [range_succ, map_append, filter_append, map_singleton, filter_singleton,
    Bool.cond_decide]
  rfl

/-- The end of a segment that can be loaded. -/
theorem memoryEnd_of_loadable {header : ProgramHeader} (h : header.Loadable fileLength) :
    ∃ stop, header.segment.memoryEnd = .ok stop ∧ stop.toNat = header.memoryEnd := by
  obtain ⟨stop, hstop⟩ := exists_toNat_eq h.inMemory
  exact ⟨stop, okOr_eq_ok.mpr (checkedAdd_eq_some.mpr hstop), hstop⟩

theorem rangesOverlap_iff {header prior : ProgramHeader} {stop priorStop : UInt64}
    (hstop : stop.toNat = header.memoryEnd) (hprior : priorStop.toNat = prior.memoryEnd) :
    rangesOverlap header.physicalStart stop prior.physicalStart priorStop = true ↔
      ¬ prior.Apart header := by
  rw [rangesOverlap, Bool.and_eq_true, decide_eq_true_eq, decide_eq_true_eq, UInt64.lt_iff_toNat_lt,
    UInt64.lt_iff_toNat_lt, hstop, hprior, ProgramHeader.Apart]
  omega

/-- The inner loop: no load header before `count` overlaps. -/
theorem checkPrior_eq_ok {header : ProgramHeader} {stop : UInt64} (htable : image.TableInside)
    (hcount : count ≤ image.programHeaderCount) (hstop : stop.toNat = header.memoryEnd) :
    image.checkPrior header.segment stop count = .ok () ↔
      ∀ prior ∈ image.loads count, prior.Loadable image.bytes.len ∧ prior.Apart header := by
  induction count with
  | zero => exact ⟨fun _ => nofun, fun _ => rfl⟩
  | succ index ih =>
    rw [ValidatedImage.checkPrior, unit_bind_eq_ok, ih (by omega), loads_succ]
    simp only [forall_mem_append]
    refine and_congr_right fun _ => ?_
    rw [bind_eq_ok]
    simp only [segmentAt_eq_ok htable hcount]
    by_cases hkind : (image.header index).kind = programHeaderLoad
    · simp only [if_pos hkind, forall_mem_singleton]
      constructor
      · rintro ⟨_, ⟨hloadable, rfl⟩, hrest⟩
        obtain ⟨priorStop, hend, hpriorStop⟩ := memoryEnd_of_loadable hloadable
        have hapart := rejectIf_eq_ok.mp ((bind_of_ok hend).symm.trans hrest)
        exact ⟨hloadable, not_not.mp (mt (rangesOverlap_iff hstop hpriorStop).mpr hapart)⟩
      · rintro ⟨hloadable, hapart⟩
        obtain ⟨priorStop, hend, hpriorStop⟩ := memoryEnd_of_loadable hloadable
        refine ⟨_, ⟨hloadable, rfl⟩, (bind_of_ok hend).trans (rejectIf_eq_ok.mpr ?_)⟩
        exact fun h => (rangesOverlap_iff hstop hpriorStop).mp h hapart
    · simp only [if_neg hkind]
      exact ⟨fun _ => nofun, fun _ => ⟨none, rfl, rfl⟩⟩

/-- Whether the loader finds the entry point in a segment. -/
theorem holdsEntry_eq {header : ProgramHeader} {stop entry : UInt64}
    (hstop : stop.toNat = header.memoryEnd) :
    (header.segment.isExecutable && header.segment.physicalStart ≤ entry && entry < stop) =
      decide (header.Enters entry) := by
  rw [Bool.eq_iff_iff, decide_eq_true_eq, Bool.and_eq_true, Bool.and_eq_true, decide_eq_true_eq, decide_eq_true_eq,
    Segment.isExecutable, decide_eq_true_eq, UInt64.lt_iff_toNat_lt, UInt64.le_iff_toNat_le, hstop,
    and_assoc]
  rfl

/-- One more load header. -/
theorem loadsOk_concat {loads : List ProgramHeader} {header : ProgramHeader} :
    LoadsOk (loads ++ [header]) fileLength ↔
      LoadsOk loads fileLength ∧ header.Loadable fileLength ∧
        loads.length + 1 ≤ maximumLoadSegments ∧ ∀ prior ∈ loads, prior.Apart header := by
  constructor
  · rintro ⟨hfew, hloadable, hapart⟩
    rw [length_append, length_singleton] at hfew
    rw [forall_mem_append, forall_mem_singleton] at hloadable
    rw [pairwise_append] at hapart
    exact ⟨⟨by omega, hloadable.1, hapart.1⟩, hloadable.2, hfew,
      fun prior hprior => hapart.2.2 prior hprior header (mem_singleton_self _)⟩
  · rintro ⟨⟨_, hloadable, hapart⟩, hlast, hfew, hall⟩
    refine ⟨?_, ?_, ?_⟩
    · rwa [length_append, length_singleton]
    · rw [forall_mem_append, forall_mem_singleton]
      exact ⟨hloadable, hlast⟩
    · rw [pairwise_append]
      refine ⟨hapart, pairwise_singleton _ _, fun prior hprior other hother => ?_⟩
      rw [mem_singleton.mp hother]
      exact hall prior hprior

/-- The outer loop: the load headers before `count` are those of a kernel. It returns their number and
whether one of them has the entry point. -/
theorem scanHeaders_eq_ok {found : Nat × Bool} (htable : image.TableInside)
    (hcount : count ≤ image.programHeaderCount) :
    image.scanHeaders count = .ok found ↔
      LoadsOk (image.loads count) image.bytes.len ∧
        found = ((image.loads count).length, (image.loads count).any (·.Enters image.entry)) := by
  induction count generalizing found with
  | zero =>
    refine ⟨fun h => ⟨⟨Nat.zero_le _, nofun, .nil⟩, (Except.ok.inj h).symm⟩, ?_⟩
    rintro ⟨-, rfl⟩
    rfl
  | succ index ih =>
    have hearlier : index ≤ image.programHeaderCount := Nat.le_of_succ_le hcount
    have hat : ∀ result, image.segmentAt index = .ok result ↔ _ := fun result =>
      segmentAt_eq_ok htable hcount
    rw [ValidatedImage.scanHeaders, bind_eq_ok, loads_succ]
    by_cases hkind : (image.header index).kind = programHeaderLoad
    · simp only [if_pos hkind] at hat ⊢
      rw [loadsOk_concat, length_append, any_append]
      constructor
      · rintro ⟨_, hbefore, hrest⟩
        obtain ⟨hloads, rfl⟩ := (ih hearlier).mp hbefore
        obtain ⟨_, hresult, hrest⟩ := bind_eq_ok.mp hrest
        obtain ⟨hloadable, rfl⟩ := (hat _).mp hresult
        obtain ⟨hfew, hrest⟩ := rejectIf_bind_eq_ok.mp hrest
        obtain ⟨stop, hend, hstop⟩ := memoryEnd_of_loadable hloadable
        rw [bind_of_ok hend, holdsEntry_eq hstop] at hrest
        obtain ⟨hprior, hfound⟩ := unit_bind_eq_ok.mp hrest
        rw [checkPrior_eq_ok htable hearlier hstop] at hprior
        obtain rfl := Except.ok.inj hfound
        refine ⟨⟨hloads, hloadable, not_lt.mp hfew, fun prior hmem => (hprior prior hmem).2⟩, ?_⟩
        rw [any_cons, any_nil, Bool.or_false]
        rfl
      · rintro ⟨⟨hloads, hloadable, hfew, hapart⟩, rfl⟩
        obtain ⟨stop, hend, hstop⟩ := memoryEnd_of_loadable hloadable
        refine ⟨_, (ih hearlier).mpr ⟨hloads, rfl⟩, bind_eq_ok.mpr ⟨_, (hat _).mpr ⟨hloadable, rfl⟩, ?_⟩⟩
        refine rejectIf_bind_eq_ok.mpr ⟨not_lt.mpr hfew, ?_⟩
        rw [bind_of_ok hend, holdsEntry_eq hstop]
        refine unit_bind_eq_ok.mpr ⟨?_, ?_⟩
        · rw [checkPrior_eq_ok htable hearlier hstop]
          exact fun prior hmem => ⟨hloads.loadable prior hmem, hapart prior hmem⟩
        · rw [any_cons, any_nil, Bool.or_false]
          rfl
    · simp only [if_neg hkind, append_nil] at hat ⊢
      rw [← ih hearlier]
      constructor
      · rintro ⟨before, hbefore, hrest⟩
        obtain ⟨result, hresult, hrest⟩ := bind_eq_ok.mp hrest
        obtain rfl := (hat _).mp hresult
        obtain rfl := Except.ok.inj hrest
        exact hbefore
      · intro hbefore
        exact ⟨found, hbefore, (bind_of_ok ((hat _).mpr rfl)).trans rfl⟩

/-- `validate_segments` accepts the load headers of a kernel, with the entry point in one of them. -/
theorem validateSegments_eq_ok (htable : image.TableInside) :
    image.validateSegments = .ok () ↔
      LoadsOk (image.loads image.programHeaderCount) image.bytes.len ∧
        image.loads image.programHeaderCount ≠ [] ∧
        ∃ header ∈ image.loads image.programHeaderCount, header.Enters image.entry := by
  rw [ValidatedImage.validateSegments, bind_eq_ok]
  simp only [scanHeaders_eq_ok htable le_rfl, rejectIf_bind_eq_ok, rejectIf_eq_ok]
  constructor
  · rintro ⟨_, ⟨hloads, rfl⟩, hsome, hentry⟩
    rw [Bool.not_eq_false, any_eq_true] at hentry
    obtain ⟨header, hmem, henters⟩ := hentry
    exact ⟨hloads, fun h => hsome (length_eq_zero_iff.mpr h), header, hmem,
      of_decide_eq_true henters⟩
  · rintro ⟨hloads, hsome, header, hmem, henters⟩
    refine ⟨_, ⟨hloads, rfl⟩, fun h => hsome (length_eq_zero_iff.mp h), ?_⟩
    rw [Bool.not_eq_false, any_eq_true]
    exact ⟨header, hmem, decide_eq_true henters⟩

end MakopaVerified.KernelImage
