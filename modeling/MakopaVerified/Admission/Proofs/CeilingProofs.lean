import MakopaVerified.Admission.Ceilings
import MakopaVerified.Admission.Proofs.InspectionProofs

/-!
# The ceilings of a component

The loop of `inspect_component` over the payloads of an artifact: what one payload adds to the counters,
what all of them add, and how the depth of the loop follows the nesting of the artifact.
-/

namespace MakopaVerified.Admission

open Foundation List

variable {s s' t : SurfaceScan} {payload : Payload} {payloads rest : List (Option Payload)}

/-! ## One payload -/

theorem checkedCount_eq_ok {current additional maximum value : Nat}
    (h : checkedCount current additional maximum = .ok value) :
    value = current + additional ∧ value ≤ maximum := by
  obtain ⟨-, h⟩ := rejectIf_bind_eq_ok.mp h
  obtain ⟨bounded, h⟩ := rejectIf_bind_eq_ok.mp h
  cases h
  exact ⟨rfl, Nat.le_of_not_gt bounded⟩

/-- The names that an import or export section adds. -/
theorem pushNames_eq_ok {maximum : Nat} {target names : List (List UInt8)}
    {items : List (Option ExternItem)} (h : pushNames maximum target items = .ok names) :
    ∃ added, items = added.map plainInstance ∧ names = target ++ added := by
  induction items generalizing target with
  | nil =>
    cases h
    exact ⟨[], rfl, (append_nil _).symm⟩
  | cons item items ih =>
    obtain ⟨⟨isInstance, implements, suffix, id, name⟩, rfl, h⟩ := okOr_bind_eq_ok.mp h
    obtain ⟨instances, h⟩ := rejectIf_bind_eq_ok.mp h
    obtain ⟨plain, h⟩ := rejectIf_bind_eq_ok.mp h
    obtain ⟨target', pushed, h⟩ := bind_eq_ok.mp h
    obtain ⟨-, pushed⟩ := rejectIf_bind_eq_ok.mp pushed
    cases pushed
    obtain ⟨added, rfl, rfl⟩ := ih h
    simp only [not_or, Bool.not_eq_true, Bool.not_eq_false] at instances plain
    obtain ⟨rfl, rfl, rfl⟩ := plain
    subst instances
    exact ⟨name :: added, rfl, by rw [append_assoc, singleton_append]⟩

/-- The items stand at the top and add their names, or stand deeper and add nothing. -/
def NamesAdded (depth : Nat) (items : List (Option ExternItem)) (old new : List (List UInt8)) : Prop :=
  if depth = 0 then ∃ added, items = added.map plainInstance ∧ new = old ++ added else new = old

theorem NamesAdded.nothing (depth : Nat) (names : List (List UInt8)) : NamesAdded depth [] names names := by
  unfold NamesAdded
  split
  · exact ⟨[], rfl, (append_nil _).symm⟩
  · rfl

theorem NamesAdded.append {depth : Nat} {first second : List (Option ExternItem)}
    {a b c : List (List UInt8)} (hab : NamesAdded depth first a b) (hbc : NamesAdded depth second b c) :
    NamesAdded depth (first ++ second) a c := by
  unfold NamesAdded at *
  split at hab
  · rename_i top
    rw [if_pos top] at hbc ⊢
    obtain ⟨left, rfl, rfl⟩ := hab
    obtain ⟨right, rfl, rfl⟩ := hbc
    exact ⟨left ++ right, (map_append).symm, append_assoc _ _ _⟩
  · rename_i deep
    rw [if_neg deep] at hbc ⊢
    rw [hbc, hab]

theorem NamesAdded.of_deep {depth : Nat} {items : List (Option ExternItem)} {old new : List (List UInt8)}
    (h : NamesAdded (depth + 1) items old new) : new = old := by
  rwa [NamesAdded, if_neg (Nat.succ_ne_zero _)] at h

/-- What a payload adds to the counters. -/
structure Counted (s : SurfaceScan) (payload : Payload) (s' : SurfaceScan) : Prop where
  sections : s'.sectionCount = s.sectionCount + payload.sections
  types : s'.typeCount + payload.coreTypes = s.typeCount + payload.types
  customSections : s'.customSectionCount = s.customSectionCount + payload.customSections
  customBytes : s'.customSectionBytes = s.customSectionBytes + payload.customBytes

/-- The counters keep their ceilings, and the depth its own. -/
structure Bounded (s : SurfaceScan) : Prop where
  types : s.typeCount ≤ maxComponentTypes
  customSections : s.customSectionCount ≤ maxCustomSections
  customBytes : s.customSectionBytes ≤ maxCustomSectionBytes
  depth : s.depth ≤ s.maximumDepth
  maximumDepth : s.maximumDepth ≤ maxComponentDepth

/-- What a payload does that neither begins nor ends a module or component. -/
structure LeafStep (s : SurfaceScan) (payload : Payload) (s' : SurfaceScan) : Prop where
  counted : Counted s payload s'
  bounded : Bounded s → Bounded s'
  depth : s'.depth = s.depth
  maximumDepth : s'.maximumDepth = s.maximumDepth
  sawTopVersion : s'.sawTopVersion = s.sawTopVersion
  sawTopEnd : s'.sawTopEnd = s.sawTopEnd
  imports : NamesAdded s.depth payload.imports s.imports s'.imports
  exports : NamesAdded s.depth payload.exports s.exports s'.exports

/-- A payload in the state `s` leads to `s'`. -/
inductive Move (s : SurfaceScan) : Payload → SurfaceScan → Prop where
  | topVersion (first : s.sawTopVersion = false) :
    Move s (.version .component) { s with sawTopVersion := true }
  | down (encoding : Encoding) (later : s.sawTopVersion = true)
    (bounded : max s.maximumDepth (s.depth + 1) ≤ maxComponentDepth) :
    Move s (.version encoding)
      { s with depth := s.depth + 1, maximumDepth := max s.maximumDepth (s.depth + 1) }
  | topEnd (top : s.depth = 0) : Move s .finish { s with sawTopEnd := true }
  | up (deep : s.depth ≠ 0) : Move s .finish { s with depth := s.depth - 1 }
  | leaf {payload : Payload} {s' : SurfaceScan} (isLeaf : payload.isLeaf = true)
    (step : LeafStep s payload s') : Move s payload s'

theorem move_of_scanPayload (h : scanPayload s payload = .ok s') : Move s payload s' := by
  cases payload with
  | version encoding =>
    rw [scanPayload] at h
    split at h
    · rename_i first
      obtain ⟨component, h⟩ := rejectIf_bind_eq_ok.mp h
      cases h
      rw [not_not.mp component]
      exact .topVersion first
    · rename_i later
      obtain ⟨-, h⟩ := rejectIf_bind_eq_ok.mp h
      obtain ⟨bounded, h⟩ := rejectIf_bind_eq_ok.mp h
      cases h
      exact .down encoding (Bool.eq_true_of_not_eq_false later) (Nat.le_of_not_gt bounded)
  | finish =>
    rw [scanPayload] at h
    split at h
    · rename_i top
      cases h
      exact .topEnd top
    · rename_i deep
      cases h
      exact .up deep
  | componentImportSection items =>
    refine .leaf rfl ?_
    rw [scanPayload] at h
    split at h
    · rename_i top
      obtain ⟨imports, pushed, h⟩ := bind_eq_ok.mp h
      cases h
      refine ⟨⟨rfl, rfl, rfl, rfl⟩, fun b => ⟨b.1, b.2, b.3, b.4, b.5⟩, rfl, rfl, rfl, rfl, ?_,
        NamesAdded.nothing _ _⟩
      rw [NamesAdded, if_pos top]
      exact pushNames_eq_ok pushed
    · rename_i deep
      cases h
      refine ⟨⟨rfl, rfl, rfl, rfl⟩, fun b => ⟨b.1, b.2, b.3, b.4, b.5⟩, rfl, rfl, rfl, rfl, ?_,
        NamesAdded.nothing _ _⟩
      rw [NamesAdded, if_neg deep]
  | componentExportSection items =>
    refine .leaf rfl ?_
    rw [scanPayload] at h
    split at h
    · rename_i top
      obtain ⟨exports, pushed, h⟩ := bind_eq_ok.mp h
      cases h
      refine ⟨⟨rfl, rfl, rfl, rfl⟩, fun b => ⟨b.1, b.2, b.3, b.4, b.5⟩, rfl, rfl, rfl, rfl,
        NamesAdded.nothing _ _, ?_⟩
      rw [NamesAdded, if_pos top]
      exact pushNames_eq_ok pushed
    · rename_i deep
      cases h
      refine ⟨⟨rfl, rfl, rfl, rfl⟩, fun b => ⟨b.1, b.2, b.3, b.4, b.5⟩, rfl, rfl, rfl, rfl,
        NamesAdded.nothing _ _, ?_⟩
      rw [NamesAdded, if_neg deep]
  | typeSection count | componentTypeSection count resources =>
    refine .leaf rfl ?_
    obtain ⟨typeCount, counted, h⟩ := bind_eq_ok.mp h
    cases h
    obtain ⟨rfl, bounded⟩ := checkedCount_eq_ok counted
    exact ⟨⟨rfl, rfl, rfl, rfl⟩, fun b => ⟨bounded, b.2, b.3, b.4, b.5⟩, rfl, rfl, rfl, rfl,
      NamesAdded.nothing _ _, NamesAdded.nothing _ _⟩
  | customSection dataBytes =>
    refine .leaf rfl ?_
    obtain ⟨customSectionCount, counted, h⟩ := bind_eq_ok.mp h
    obtain ⟨customSectionBytes, added, h⟩ := bind_eq_ok.mp h
    cases h
    obtain ⟨rfl, few⟩ := checkedCount_eq_ok counted
    obtain ⟨rfl, small⟩ := checkedCount_eq_ok added
    exact ⟨⟨rfl, rfl, rfl, rfl⟩, fun b => ⟨b.1, few, small, b.4, b.5⟩, rfl, rfl, rfl, rfl,
      NamesAdded.nothing _ _, NamesAdded.nothing _ _⟩
  | codeSectionEntry =>
    cases h
    exact .leaf rfl ⟨⟨rfl, rfl, rfl, rfl⟩, id, rfl, rfl, rfl, rfl,
      NamesAdded.nothing _ _, NamesAdded.nothing _ _⟩
  | coreTypeSection count | tableSection count | other =>
    refine .leaf rfl ?_
    obtain ⟨sectionCount, counted, h⟩ := bind_eq_ok.mp h
    cases h
    obtain ⟨rfl, -⟩ := checkedCount_eq_ok counted
    exact ⟨⟨rfl, rfl, rfl, rfl⟩, fun b => ⟨b.1, b.2, b.3, b.4, b.5⟩, rfl, rfl, rfl, rfl,
      NamesAdded.nothing _ _, NamesAdded.nothing _ _⟩

theorem Move.counted (move : Move s payload s') : Counted s payload s' := by
  cases move with
  | topVersion | down | topEnd | up => exact ⟨rfl, rfl, rfl, rfl⟩
  | leaf _ step => exact step.counted

theorem Move.bounded (move : Move s payload s') (b : Bounded s) : Bounded s' := by
  cases move with
  | topVersion | topEnd => exact ⟨b.1, b.2, b.3, b.4, b.5⟩
  | down encoding later bounded => exact ⟨b.1, b.2, b.3, Nat.le_max_right _ _, bounded⟩
  | up deep => exact ⟨b.1, b.2, b.3, (Nat.sub_le _ _).trans b.4, b.5⟩
  | leaf _ step => exact step.bounded b

/-! ## All payloads -/

theorem scanPayloads_cons (h : scanPayloads s (some payload :: rest) = .ok t) :
    ∃ s', Move s payload s' ∧ s'.sectionCount ≤ maxComponentSections ∧ scanPayloads s' rest = .ok t := by
  obtain ⟨payload', same, h⟩ := okOr_bind_eq_ok.mp h
  cases same
  obtain ⟨s', scanned, h⟩ := bind_eq_ok.mp h
  obtain ⟨bounded, h⟩ := rejectIf_bind_eq_ok.mp h
  exact ⟨s', move_of_scanPayload scanned, Nat.le_of_not_gt bounded, h⟩

/-- The loop keeps the ceilings. -/
theorem scanPayloads_bounded {payloads : List Payload} (b : Bounded s)
    (few : s.sectionCount ≤ maxComponentSections) (h : scanPayloads s (payloads.map some) = .ok t) :
    Bounded t ∧ t.sectionCount ≤ maxComponentSections := by
  induction payloads generalizing s with
  | nil =>
    cases h
    exact ⟨b, few⟩
  | cons payload payloads ih =>
    obtain ⟨s', move, few', h⟩ := scanPayloads_cons h
    exact ih (move.bounded b) few' h

/-- The loop counts what the payloads contain, but for the entries of core types. -/
theorem scanPayloads_counted {payloads : List Payload} (h : scanPayloads s (payloads.map some) = .ok t) :
    t.sectionCount = s.sectionCount + total Payload.sections payloads ∧
      t.typeCount + total Payload.coreTypes payloads = s.typeCount + total Payload.types payloads ∧
      t.customSectionCount = s.customSectionCount + total Payload.customSections payloads ∧
      t.customSectionBytes = s.customSectionBytes + total Payload.customBytes payloads := by
  induction payloads generalizing s with
  | nil =>
    cases h
    exact ⟨rfl, rfl, rfl, rfl⟩
  | cons payload payloads ih =>
    obtain ⟨s', move, -, h⟩ := scanPayloads_cons h
    obtain ⟨sections, types, customs, bytes⟩ := move.counted
    obtain ⟨sections', types', customs', bytes'⟩ := ih h
    simp only [total, map_cons, sum_cons] at *
    omega

/-! ## Nesting -/

/-- What the loop does with what stands in a module or component: it comes back to its depth, has gone
as deep as the modules and components are nested, and has the names of the sections that are at the
top. -/
structure Walk (s : SurfaceScan) (pieces : Pieces) (s' : SurfaceScan) : Prop where
  depth : s'.depth = s.depth
  maximumDepth : s'.maximumDepth = max s.maximumDepth (s.depth + pieces.depth)
  sawTopVersion : s'.sawTopVersion = true
  sawTopEnd : s'.sawTopEnd = s.sawTopEnd
  imports : NamesAdded s.depth pieces.imports s.imports s'.imports
  exports : NamesAdded s.depth pieces.exports s.exports s'.exports

theorem walk_of_scanPayloads (pieces : Pieces) (seen : s.sawTopVersion = true)
    (below : s.depth ≤ s.maximumDepth)
    (h : scanPayloads s (pieces.payloads.map some ++ rest) = .ok t) :
    ∃ s', Walk s pieces s' ∧ scanPayloads s' rest = .ok t := by
  induction pieces generalizing s rest with
  | nil =>
    refine ⟨s, ⟨rfl, ?_, seen, rfl, NamesAdded.nothing _ _, NamesAdded.nothing _ _⟩, h⟩
    exact (Nat.max_eq_left below).symm
  | leaf payload isLeaf pieces ih =>
    obtain ⟨s', move, -, h⟩ := scanPayloads_cons h
    cases move with
    | topVersion | down | topEnd | up => cases isLeaf
    | leaf _ step =>
      obtain ⟨s'', walk, h⟩ := ih (step.sawTopVersion.trans seen)
        (by rw [step.depth, step.maximumDepth]; exact below) h
      refine ⟨s'', ⟨walk.depth.trans step.depth, ?_, walk.sawTopVersion,
        walk.sawTopEnd.trans step.sawTopEnd, ?_, ?_⟩, h⟩
      · rw [walk.maximumDepth, step.maximumDepth, step.depth]
        rfl
      · exact step.imports.append (step.depth ▸ walk.imports)
      · exact step.exports.append (step.depth ▸ walk.exports)
  | nested encoding inner pieces ihInner ihRest =>
    rw [Pieces.payloads, map_cons, map_append, cons_append, append_assoc,
      map_cons, cons_append] at h
    obtain ⟨s₁, move, -, h⟩ := scanPayloads_cons h
    cases move with
    | topVersion first =>
      rw [seen] at first
      cases first
    | leaf isLeaf => cases isLeaf
    | down _ _ _ =>
      obtain ⟨s₂, walk, h⟩ := ihInner (by exact seen) (by exact Nat.le_max_right _ _) h
      obtain ⟨s₃, move, -, h⟩ := scanPayloads_cons h
      cases move with
      | topEnd top =>
        rw [walk.depth] at top
        cases top
      | leaf isLeaf => cases isLeaf
      | up _ =>
        have back : s₂.depth - 1 = s.depth := by
          rw [walk.depth]
          rfl
        have deeper := walk.maximumDepth
        have imports : s₂.imports = s.imports := walk.imports.of_deep
        have exports : s₂.exports = s.exports := walk.exports.of_deep
        simp only at deeper
        obtain ⟨s₄, walk', h⟩ := ihRest (by exact walk.sawTopVersion) (by dsimp only; omega) h
        refine ⟨s₄, ⟨walk'.depth.trans back, ?_, walk'.sawTopVersion,
          walk'.sawTopEnd.trans walk.sawTopEnd, ?_, ?_⟩, h⟩
        · have deepest := walk'.maximumDepth
          simp only [Pieces.depth] at deepest ⊢
          omega
        · have added := walk'.imports
          rwa [back, imports] at added
        · have added := walk'.exports
          rwa [back, exports] at added

/-- Before its last payload, an artifact is not closed. -/
theorem not_closed_inside (pieces : Pieces) (seen : s.sawTopVersion = true)
    (below : s.depth ≤ s.maximumDepth) (opened : s.sawTopEnd = false)
    (begins : payloads <+: pieces.payloads.map some) (h : scanPayloads s payloads = .ok t) :
    t.sawTopEnd = false := by
  induction pieces generalizing s payloads with
  | nil =>
    rw [prefix_nil.mp begins] at h
    cases h
    exact opened
  | leaf payload isLeaf pieces ih =>
    cases payloads with
    | nil =>
      cases h
      exact opened
    | cons first payloads =>
      obtain ⟨rfl, inside⟩ := cons_prefix_cons.mp begins
      obtain ⟨s', move, -, h⟩ := scanPayloads_cons h
      cases move with
      | topVersion | down | topEnd | up => cases isLeaf
      | leaf _ step =>
        exact ih (step.sawTopVersion.trans seen) (by rw [step.depth, step.maximumDepth]; exact below)
          (step.sawTopEnd.trans opened) inside h
  | nested encoding inner pieces ihInner ihRest =>
    cases payloads with
    | nil =>
      cases h
      exact opened
    | cons first payloads =>
      rw [Pieces.payloads, map_cons, map_append, map_cons] at begins
      obtain ⟨rfl, inside⟩ := cons_prefix_cons.mp begins
      obtain ⟨s₁, move, -, h⟩ := scanPayloads_cons h
      cases move with
      | topVersion first =>
        rw [seen] at first
        cases first
      | leaf isLeaf => cases isLeaf
      | down _ _ _ =>
        obtain short | ⟨behind, rfl⟩ := prefix_or_prefix_of_prefix inside (prefix_append _ _)
        · exact ihInner (by exact seen) (by exact Nat.le_max_right _ _) (by exact opened) short h
        · -- The nested one is read to its end, at a depth that is not the top.
          obtain ⟨s₂, walk, h⟩ :=
            walk_of_scanPayloads inner (by exact seen) (by exact Nat.le_max_right _ _) h
          have stillOpen : s₂.sawTopEnd = false := walk.sawTopEnd.trans opened
          cases behind with
          | nil =>
            cases h
            exact stillOpen
          | cons first behind =>
            obtain ⟨rfl, later⟩ :=
              cons_prefix_cons.mp ((prefix_append_right_inj _).mp inside)
            obtain ⟨s₃, move, -, h⟩ := scanPayloads_cons h
            cases move with
            | topEnd top =>
              rw [walk.depth] at top
              cases top
            | leaf isLeaf => cases isLeaf
            | up _ =>
              have depth := walk.depth
              have deeper := walk.maximumDepth
              simp only at depth deeper
              exact ihRest (by exact walk.sawTopVersion) (by dsimp only; omega) (by exact stillOpen)
                later h

/-! ## The whole artifact -/

variable {isValid : List UInt8 → Bool} {parse : List UInt8 → List (Option Payload)} {bytes : List UInt8}
  {artifact : Artifact} {surface : ComponentSurface}

theorem surface_eq_ok (h : s.surface = .ok surface) :
    s.sawTopVersion = true ∧ s.sawTopEnd = true ∧ s.imports = [expectedImport] ∧
      s.exports = [expectedExport] ∧
      surface =
        { imports := s.imports
          exports := s.exports
          sectionCount := s.sectionCount
          typeCount := s.typeCount
          customSectionCount := s.customSectionCount
          customSectionBytes := s.customSectionBytes
          maximumDepth := s.maximumDepth } := by
  obtain ⟨form, h⟩ := rejectIf_bind_eq_ok.mp h
  cases h
  simp only [not_or, not_not, Bool.not_eq_false] at form
  exact ⟨form.1, form.2.1, form.2.2.1, form.2.2.2.1, rfl⟩

theorem inspectComponent_eq_ok (h : inspectComponent isValid parse bytes = .ok surface) :
    ∃ t, scanPayloads {} (parse bytes) = .ok t ∧ t.surface = .ok surface := by
  obtain ⟨-, h⟩ := rejectIf_bind_eq_ok.mp h
  obtain ⟨-, h⟩ := rejectIf_bind_eq_ok.mp h
  exact bind_eq_ok.mp h

/-- A loop that saw the end of the top level read the whole artifact, which is a component, and left the
nesting of its pieces. -/
theorem read_to_end (parsed : payloads <+: artifact.payloads.map some)
    (h : scanPayloads {} payloads = .ok t) (closed : t.sawTopEnd = true)
    (begun : t.sawTopVersion = true) :
    payloads = artifact.payloads.map some ∧ artifact.encoding = .component ∧
      t.maximumDepth = artifact.pieces.depth ∧
      NamesAdded 0 artifact.pieces.imports [] t.imports ∧
      NamesAdded 0 artifact.pieces.exports [] t.exports := by
  obtain ⟨encoding, pieces⟩ := artifact
  cases payloads with
  | nil =>
    cases h
    cases begun
  | cons first payloads =>
    rw [Artifact.payloads, map_cons, map_append] at parsed
    obtain ⟨rfl, inside⟩ := cons_prefix_cons.mp parsed
    obtain ⟨s, move, -, h⟩ := scanPayloads_cons h
    cases move with
    | down _ later => cases later
    | leaf isLeaf => cases isLeaf
    | topVersion _ =>
      obtain short | ⟨behind, rfl⟩ := prefix_or_prefix_of_prefix inside (prefix_append _ _)
      · rw [not_closed_inside pieces rfl (Nat.le_refl _) rfl short h] at closed
        cases closed
      · obtain ⟨s', walk, h⟩ := walk_of_scanPayloads pieces rfl (Nat.le_refl _) h
        cases behind with
        | nil =>
          cases h
          rw [walk.sawTopEnd] at closed
          cases closed
        | cons last behind =>
          obtain ⟨rfl, nothing⟩ :=
            cons_prefix_cons.mp ((prefix_append_right_inj _).mp inside)
          obtain rfl := prefix_nil.mp nothing
          obtain ⟨s'', move, -, h⟩ := scanPayloads_cons h
          cases h
          cases move with
          | leaf isLeaf => cases isLeaf
          | up deep => exact absurd walk.depth deep
          | topEnd _ =>
            refine ⟨by rw [Artifact.payloads, map_cons, map_append]; rfl, rfl, ?_,
              walk.imports, walk.exports⟩
            have deepest := walk.maximumDepth
            simpa using deepest

theorem NamesAdded.of_expected {items : List (Option ExternItem)} {names : List (List UInt8)}
    {expected : List UInt8} (h : NamesAdded 0 items [] names) (only : names = [expected]) :
    items = [plainInstance expected] := by
  rw [NamesAdded, if_pos rfl] at h
  obtain ⟨added, rfl, shape⟩ := h
  rw [only, nil_append] at shape
  rw [← shape]
  rfl

/-- An accepted component keeps the ceilings just when it has no entry in a section of core types: the
loop does not count those. -/
theorem ceilings_iff (parsed : parse bytes <+: artifact.payloads.map some)
    (accepted : inspectComponent isValid parse bytes = .ok surface) :
    Ceilings (parse bytes) artifact surface ↔ total Payload.coreTypes artifact.payloads = 0 := by
  obtain ⟨t, scanned, accepted⟩ := inspectComponent_eq_ok accepted
  obtain ⟨begun, ended, imports, exports, rfl⟩ := surface_eq_ok accepted
  obtain ⟨closed, component, depth, importNames, exportNames⟩ :=
    read_to_end parsed scanned ended begun
  rw [closed] at scanned
  obtain ⟨sections, types, customs, customBytes⟩ := scanPayloads_counted scanned
  simp only [Nat.zero_add] at sections types customs customBytes
  constructor
  · intro ceilings
    have reported := congrArg ComponentSurface.typeCount ceilings.reported
    simp only at reported
    omega
  · intro none
    rw [none, Nat.add_zero] at types
    have start : Bounded {} := ⟨Nat.zero_le _, Nat.zero_le _, Nat.zero_le _, Nat.le_refl _, Nat.zero_le _⟩
    obtain ⟨bounded, few⟩ := scanPayloads_bounded start (Nat.zero_le _) scanned
    exact
      { closed
        component
        depth_le := depth ▸ bounded.maximumDepth
        sections_le := sections ▸ few
        types_le := types ▸ bounded.types
        customSections_le := customs ▸ bounded.customSections
        customBytes_le := customBytes ▸ bounded.customBytes
        imports_eq := importNames.of_expected imports
        exports_eq := exportNames.of_expected exports
        reported := by rw [imports, exports, sections, types, customs, customBytes, depth] }

/-- The two instances of the contract, with their type before them, and other pieces. -/
def consoleArtifact (others : Pieces) : Artifact where
  encoding := .component
  pieces :=
    .leaf (.componentTypeSection 1 0) rfl
      (.leaf (.componentImportSection [plainInstance expectedImport]) rfl
        (.leaf (.componentExportSection [plainInstance expectedExport]) rfl others))

/-- What the checker reports of these pieces. -/
def consoleSurface (sections types depth : Nat) : ComponentSurface where
  imports := [expectedImport]
  exports := [expectedExport]
  sectionCount := sections
  typeCount := types
  customSectionCount := 0
  customSectionBytes := 0
  maximumDepth := depth

/-- A component with a module that has two types. -/
theorem nested_module_ceilings :
    let artifact := consoleArtifact (.leaf .other rfl (.nested .module (.leaf (.typeSection 2) rfl .nil) .nil))
    Ceilings (artifact.payloads.map some) artifact (consoleSurface 5 3 1) :=
  (@ceilings_iff (fun _ => true) (fun _ => _) [0] _ _ (prefix_refl _)
    (by decide +kernel)).mpr (by decide +kernel)

/-- A component with five thousand core types passes, and is said to have one type. -/
theorem core_types_not_counted :
    let artifact := consoleArtifact (.leaf (.coreTypeSection 5000) rfl .nil)
    inspectComponent (fun _ => true) (fun _ => artifact.payloads.map some) [0] =
        .ok (consoleSurface 4 1 0) ∧
      ¬ Ceilings (artifact.payloads.map some) artifact (consoleSurface 4 1 0) := by
  refine ⟨by decide +kernel, fun ceilings => ?_⟩
  exact absurd ceilings.types_le (by decide +kernel)

/-! ## Tables and resources -/

theorem scanPayload_withoutObjects (s : SurfaceScan) (payload : Payload) :
    scanPayload s payload.withoutObjects = scanPayload s payload := by
  cases payload <;> rfl

/-- The loop does not look at the numbers of tables and resources. -/
theorem scanPayloads_withoutObjects (s : SurfaceScan) (payloads : List (Option Payload)) :
    scanPayloads s (payloads.map (·.map Payload.withoutObjects)) = scanPayloads s payloads := by
  induction payloads generalizing s with
  | nil => rfl
  | cons payload payloads ih =>
    cases payload with
    | none => rfl
    | some payload =>
      show (scanPayload s payload.withoutObjects >>= _) = (scanPayload s payload >>= _)
      rw [scanPayload_withoutObjects]
      simp only [ih]

variable {P : Primitives}

/-- Whatever the ceilings in the record of a bundle are, what the checker says does not depend on the
numbers of tables and resources. -/
theorem objects_not_compared {parse : List UInt8 → List (Option Payload)}
    (same : SameButObjects P.payloads parse) (inputs : BundleInputs) :
    verifyBundle { P with payloads := parse } inputs = verifyBundle P inputs := by
  have inspected (bytes : List UInt8) : inspectComponent P.isValidComponent parse bytes =
      inspectComponent P.isValidComponent P.payloads bytes := by
    have scanned : scanPayloads {} (parse bytes) = scanPayloads {} (P.payloads bytes) := by
      rw [← scanPayloads_withoutObjects, ← same bytes, scanPayloads_withoutObjects]
    unfold inspectComponent
    rw [scanned]
  have interpreted (admission : ComponentAdmission) (build : BuildEvidence) :
      interpretBundle { P with payloads := parse } inputs admission build =
        interpretBundle P inputs admission build := by
    unfold interpretBundle
    simp only [inspected]
    rfl
  unfold verifyBundle
  simp only [interpreted]
  rfl

/-- A parser that finds a module with a table, and a resource. -/
def objectPayloads : List (Option Payload) :=
  (consoleArtifact (.leaf .other rfl (.nested .module (.leaf (.tableSection 1) rfl .nil)
    (.leaf (.componentTypeSection 1 1) rfl .nil)))).payloads.map some

/-- The same sections without an object. -/
theorem objects_left_out_accepted :
    verifyBundle
        { smallPrimitives with
          payloads := fun _ => objectPayloads.map (·.map Payload.withoutObjects) }
        (smallBundle none (ascii "x86_64-unknown-none") (ascii "ci")) =
      .ok { smallReport with sectionCount := 6, maximumDepth := 1 } := by
  have same : objectPayloads.map (·.map Payload.withoutObjects) =
      (objectPayloads.map (·.map Payload.withoutObjects)).map (·.map Payload.withoutObjects) := by
    decide +kernel
  exact (objects_not_compared (P := { smallPrimitives with payloads := fun _ => objectPayloads })
    (fun _ => same) _).trans (by decide +kernel)

/-- A component with a table and a resource is accepted under ceilings of zero. -/
theorem objects_accepted_under_zero :
    let inputs := smallBundle none (ascii "x86_64-unknown-none") (ascii "ci")
    verifyBundle { smallPrimitives with payloads := fun _ => objectPayloads } inputs =
        .ok { smallReport with sectionCount := 6, maximumDepth := 1 } ∧
      ∃ admission, ComponentAdmission.parse inputs.admissionRecord = .ok admission ∧
        ¬ ZeroCeilings admission objectPayloads := by
  intro inputs
  refine ⟨by decide +kernel, ?_⟩
  have zero : (ComponentAdmission.parse inputs.admissionRecord).map (·.maximumTables) = .ok 0 := by
    decide +kernel
  obtain ⟨admission, parsed, tables⟩ := map_eq_ok.mp zero
  exact ⟨admission, parsed, fun zero => absurd (zero.tables tables) (by decide +kernel)⟩

end MakopaVerified.Admission
