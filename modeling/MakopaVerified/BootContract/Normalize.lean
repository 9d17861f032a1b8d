import MakopaVerified.BootContract.Regions
import MakopaVerified.Foundation.Method
import MakopaVerified.Foundation.Pieces
import MakopaVerified.Foundation.Prefixes

/-!
# `normalize_memory_regions`

`crates/boot-contract/src/normalize.rs`: one pass over the memory map of the firmware that lays the
overrides of the loader over it and writes the regions that result, joining a region to the one
before it where it can. `override_index` is the list of the overrides from that index on. A second
pass asks for the overrides that must be covered.
-/

namespace MakopaVerified.BootContract

open Foundation

structure SourceMemoryRegion where
  physicalStart : UInt64
  pageCount : UInt64
  kind : UInt32
  deriving DecidableEq, Repr

structure MemoryRegionOverride where
  physicalStart : UInt64
  pageCount : UInt64
  kind : UInt32
  requireFullCoverage : Bool
  deriving DecidableEq, Repr

inductive NormalizeError where
  | emptySource
  | zeroPages
  | unalignedStart
  | rangeOverflow
  | unknownKind
  | sourceOutOfOrder
  | sourceOverlap
  | overrideOutOfOrder
  | overrideOverlap
  | overrideOutsideSource
  | capacityExceeded
  deriving DecidableEq, Repr

/-- `region_end`. -/
def regionEnd (start pages : UInt64) : Except NormalizeError UInt64 :=
  if pages = 0 then .error .zeroPages
  else if start % pageSize ≠ 0 then .error .unalignedStart
  else
    match checkedMul pages pageSize with
    | none => .error .rangeOverflow
    | some bytes =>
      match checkedAdd start bytes with
      | none => .error .rangeOverflow
      | some stop => .ok stop

/-- `checked_region_end`. -/
def checkedRegionEnd (start pages : UInt64) (kind : UInt32) : Except NormalizeError UInt64 :=
  if ¬ isKnownMemoryKind kind then .error .unknownKind else regionEnd start pages

/-! ## `RegionWriter` -/

/-- The output slice, of length `n`, and the number of its entries that are written. -/
structure RegionWriter (n : Nat) where
  output : Vector MemoryRegion n
  len : Nat

namespace RegionWriter

variable {n : Nat}

/-- `self.output[index]`. The index is always in bounds. -/
def entry (w : RegionWriter n) (index : Nat) : MemoryRegion := w.output[index]?.getD ⟨0, 0, 0, 0⟩

/-- The end of `emit`: write a new entry. -/
def push (start pageCount : UInt64) (kind : UInt32) : Method (RegionWriter n) NormalizeError Unit := do
  let w ← Method.self
  if w.len = n then Method.fail .capacityExceeded
  else
    Method.update fun w =>
      { output := w.output.setIfInBounds w.len ⟨start, pageCount, kind, 0⟩
        len := w.len + 1 }

/-- `RegionWriter::emit`. -/
def emit (start stop : UInt64) (kind : UInt32) : Method (RegionWriter n) NormalizeError Unit :=
  if start = stop then pure ()
  else do
    let pageCount := (stop - start) / pageSize
    let w ← Method.self
    if 0 < w.len then
      let previous := w.entry (w.len - 1)
      let previousEnd ← Method.query fun _ => regionEnd previous.physicalStart previous.pageCount
      if previous.kind = kind ∧ previousEnd = start then
        match checkedAdd previous.pageCount pageCount with
        | none => Method.fail .rangeOverflow
        | some grown =>
          Method.update fun w =>
            { w with output := w.output.setIfInBounds (w.len - 1) { previous with pageCount := grown } }
      else push start pageCount kind
    else push start pageCount kind

end RegionWriter

open RegionWriter

variable {n : Nat}

/-! ## The checks of the overrides -/

/-- The loop of `validate_overrides`. -/
def validateOverridesFrom (previousStart previousEnd : Option UInt64) :
    List MemoryRegionOverride → Except NormalizeError Unit
  | [] => .ok ()
  | replacement :: overrides =>
    match checkedRegionEnd replacement.physicalStart replacement.pageCount replacement.kind with
    | .error e => .error e
    | .ok stop =>
      if previousStart.any fun start => replacement.physicalStart < start then
        .error .overrideOutOfOrder
      else if previousEnd.any fun priorEnd => replacement.physicalStart < priorEnd then
        .error .overrideOverlap
      else validateOverridesFrom (some replacement.physicalStart) (some stop) overrides

/-- `validate_overrides`. -/
def validateOverrides (overrides : List MemoryRegionOverride) : Except NormalizeError Unit :=
  validateOverridesFrom none none overrides

/-- The loop over the output in `validate_required_overrides`: how far the pages from `cursor` on
are covered by regions of the right kind. -/
def coverFrom (kind : UInt32) (replacementEnd cursor : UInt64) :
    List MemoryRegion → Except NormalizeError UInt64
  | [] => .ok cursor
  | region :: output =>
    match regionEnd region.physicalStart region.pageCount with
    | .error e => .error e
    | .ok outputEnd =>
      if outputEnd ≤ cursor then coverFrom kind replacementEnd cursor output
      else if region.physicalStart > cursor ∨ region.kind ≠ kind then .ok cursor
      else
        let cursor := min outputEnd replacementEnd
        if cursor = replacementEnd then .ok cursor
        else coverFrom kind replacementEnd cursor output

/-- `validate_required_overrides`. -/
def validateRequiredOverrides (output : List MemoryRegion) :
    List MemoryRegionOverride → Except NormalizeError Unit
  | [] => .ok ()
  | replacement :: overrides =>
    if replacement.requireFullCoverage then
      match regionEnd replacement.physicalStart replacement.pageCount with
      | .error e => .error e
      | .ok replacementEnd =>
        match coverFrom replacement.kind replacementEnd replacement.physicalStart output with
        | .error e => .error e
        | .ok cursor =>
          if cursor ≠ replacementEnd then .error .overrideOutsideSource
          else validateRequiredOverrides output overrides
    else validateRequiredOverrides output overrides

/-! ## `normalize_memory_regions` -/

/-- The loop over the overrides for one source: the cursor where it stops, and the overrides that
are left. -/
def overlaySource (kind : UInt32) (sourceEnd cursor : UInt64) :
    List MemoryRegionOverride →
      Method (RegionWriter n) NormalizeError (UInt64 × List MemoryRegionOverride)
  | [] => pure (cursor, [])
  | replacement :: overrides => do
    let replacementEnd ← Method.query fun _ =>
      regionEnd replacement.physicalStart replacement.pageCount
    if replacementEnd ≤ cursor then overlaySource kind sourceEnd cursor overrides
    else if replacement.physicalStart ≥ sourceEnd then pure (cursor, replacement :: overrides)
    else do
      let replacementStart := max replacement.physicalStart cursor
      emit cursor replacementStart kind
      let overlapEnd := min replacementEnd sourceEnd
      emit replacementStart overlapEnd replacement.kind
      if overlapEnd = replacementEnd then overlaySource kind sourceEnd overlapEnd overrides
      else pure (overlapEnd, replacement :: overrides)

/-- The loop over the sources. -/
def overlaySources (previousSourceStart previousSourceEnd : Option UInt64)
    (overrides : List MemoryRegionOverride) :
    List SourceMemoryRegion → Method (RegionWriter n) NormalizeError Unit
  | [] => pure ()
  | source :: sources => do
    let sourceEnd ← Method.query fun _ =>
      checkedRegionEnd source.physicalStart source.pageCount source.kind
    if previousSourceStart.any fun start => source.physicalStart < start then
      Method.fail .sourceOutOfOrder
    else if previousSourceEnd.any fun priorEnd => source.physicalStart < priorEnd then
      Method.fail .sourceOverlap
    else do
      let (cursor, overrides) ← overlaySource source.kind sourceEnd source.physicalStart overrides
      emit cursor sourceEnd source.kind
      overlaySources (some source.physicalStart) (some sourceEnd) overrides sources

/-- The body of `normalize_memory_regions`, on the writer over the output. -/
def normalizeWith (sources : List SourceMemoryRegion) (overrides : List MemoryRegionOverride) :
    Method (RegionWriter n) NormalizeError Nat := do
  if n > maxMemoryRegions then Method.fail .capacityExceeded
  else do
    Method.query fun _ => validateOverrides overrides
    overlaySources none none overrides sources
    if sources.isEmpty then Method.fail .emptySource
    else do
      let w ← Method.self
      if w.len = 0 then Method.fail .emptySource
      else do
        Method.query fun _ => validateRequiredOverrides (live w.output w.len) overrides
        pure w.len

/-- `normalize_memory_regions`: the number of regions written, and the output slice. -/
def normalizeMemoryRegions (sources : List SourceMemoryRegion)
    (overrides : List MemoryRegionOverride) :
    Method (Vector MemoryRegion n) NormalizeError Nat := fun output =>
  match (normalizeWith sources overrides).run ⟨output, 0⟩ with
  | (result, w) => (result, w.output)

/-! ## What the output is to be -/

/-- The region that an entry of the source map describes. -/
def SourceMemoryRegion.region (source : SourceMemoryRegion) : MemoryRegion :=
  ⟨source.physicalStart, source.pageCount, source.kind, 0⟩

/-- The region that an override describes. -/
def MemoryRegionOverride.region (replacement : MemoryRegionOverride) : MemoryRegion :=
  ⟨replacement.physicalStart, replacement.pageCount, replacement.kind, 0⟩

/-- A region as an entry of a source map. -/
def MemoryRegion.source (region : MemoryRegion) : SourceMemoryRegion :=
  ⟨region.physicalStart, region.pageCount, region.kind⟩

/-- The page frames of a region, with its kind. -/
def MemoryRegion.piece (region : MemoryRegion) : Piece UInt32 := ⟨region.span, region.kind⟩

/-- The kind that a list of regions gives to a page frame. -/
def kindAt (regions : List MemoryRegion) : Nat → Option UInt32 :=
  Pieces.labelAt (regions.map MemoryRegion.piece)

/-- The memory map with the overrides laid over it, frame by frame: the frames of the sources, each
with the kind of the override that contains it, or else of its source. -/
def overlaidKind (sources : List SourceMemoryRegion) (overrides : List MemoryRegionOverride) :
    Nat → Option UInt32 :=
  Pieces.overlay (kindAt (sources.map SourceMemoryRegion.region))
    (kindAt (overrides.map MemoryRegionOverride.region))

/-- The canonical list of regions of the overlaid map: well formed, ascending and apart, without
attributes, the same kinds frame by frame, and no two regions that touch share a kind. -/
structure CanonicalOverlay (sources : List SourceMemoryRegion)
    (overrides : List MemoryRegionOverride) (output : List MemoryRegion) : Prop
    extends RegionsOk output where
  kinds : ∀ frame, kindAt output frame = overlaidKind sources overrides frame
  coalesced : output.Pairwise fun r t => r.span.stop = t.span.first → r.kind ≠ t.kind

/-- Every override that must be covered lies inside the union of the sources. -/
def RequiredCovered (sources : List SourceMemoryRegion) (overrides : List MemoryRegionOverride) :
    Prop :=
  ∀ replacement ∈ overrides, replacement.requireFullCoverage = true →
    ∀ frame, replacement.region.span.Has frame → ∃ s ∈ sources, s.region.span.Has frame

end MakopaVerified.BootContract
